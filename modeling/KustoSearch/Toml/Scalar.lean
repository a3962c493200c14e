import KustoSearch.Calendar.Date
import KustoSearch.Decimal.Reader
import KustoSearch.Text.Blank
import KustoSearch.Toml.Value

/-! # Scalars of configuration documents

Quoted texts, numbers, and dates and times. Each reader takes what its form allows from the head of
a text and leaves the rest.
-/

namespace KustoSearch.Toml

/-- Whether a character may stand in a comment or in a text without escapes. -/
def isPlain (c : Char) : Bool := c = '\t' || (0x20 ≤ c.toNat && c.toNat ≠ 0x7F)

/-- Whether a character separates tokens within a line. -/
def isSpace (c : Char) : Bool := c = ' ' || c = '\t'

/-- The rest of a text after the spaces at its head. -/
def skipSpace (cs : List Char) : List Char := cs.dropWhile isSpace

/-- The rest after the line end at the head of a text. -/
def newline? : List Char → Option (List Char)
  | '\n' :: rest => some rest
  | '\r' :: '\n' :: rest => some rest
  | _ => none

/-! ## Texts -/

/-- The character with a number in hexadecimal digits. -/
def codePoint? (digits : List Char) : Option Char :=
  match digits.mapM Text.hexValue? with
  | none => none
  | some ds =>
    let n := ds.foldl (fun n d => 16 * n + d) 0
    if n < 0xD800 || (0xE000 ≤ n && n < 0x110000) then some (Char.ofNat n) else none

/-- What an escape stands for, after its backslash. -/
def escape? : List Char → Option (Char × List Char)
  | 'b' :: rest => some (Char.ofNat 8, rest)
  | 'f' :: rest => some (Char.ofNat 12, rest)
  | 'n' :: rest => some ('\n', rest)
  | 'r' :: rest => some ('\r', rest)
  | 't' :: rest => some ('\t', rest)
  | '"' :: rest => some ('"', rest)
  | '\\' :: rest => some ('\\', rest)
  | 'u' :: rest =>
    if rest.length < 4 then none else (codePoint? (rest.take 4)).map fun c => (c, rest.drop 4)
  | 'U' :: rest =>
    if rest.length < 8 then none else (codePoint? (rest.take 8)).map fun c => (c, rest.drop 8)
  | _ => none

/-- The rest after the spaces and line ends at the head of a text. -/
def skipEnds : List Char → List Char
  | '\n' :: rest => skipEnds rest
  | '\r' :: '\n' :: rest => skipEnds rest
  | c :: rest => if isSpace c then skipEnds rest else c :: rest
  | [] => []

/-- The rest after a line end that a backslash hides, with the spaces and line ends after it. -/
def hiddenLine? (cs : List Char) : Option (List Char) :=
  (newline? (skipSpace cs)).map skipEnds

/-- The text of one line after its opening quote. The first argument bounds the number of
characters. -/
def basic? : Nat → List Char → List Char → Option (String × List Char)
  | 0, _, _ => none
  | fuel + 1, read, cs =>
    match cs with
    | [] => none
    | '"' :: rest => some (String.ofList read.reverse, rest)
    | '\\' :: rest =>
      match escape? rest with
      | some (c, rest) => basic? fuel (c :: read) rest
      | none => none
    | c :: rest => if isPlain c then basic? fuel (c :: read) rest else none

/-- The text of one line without escapes after its opening quote. -/
def literal? (cs : List Char) : Option (String × List Char) :=
  let text := cs.takeWhile fun c => isPlain c && c ≠ '\''
  match cs.drop text.length with
  | '\'' :: rest => some (String.ofList text, rest)
  | _ => none

/-- How many quotes at the head of a text belong to it where it ends in three quotes; three or
more of them end it, and at most two more stand before the end. -/
def closing (quote : Char) (cs : List Char) : Option Nat :=
  let n := (cs.takeWhile (· = quote)).length
  if n < 3 then none else some (min (n - 3) 2)

/-- The text of several lines after its opening quotes, with escapes if `escapes` says so. -/
def lines? (quote : Char) (escapes : Bool) :
    Nat → List Char → List Char → Option (String × List Char)
  | 0, _, _ => none
  | fuel + 1, read, cs =>
    match closing quote cs with
    | some extra =>
      some (String.ofList ((read.reverse) ++ List.replicate extra quote), cs.drop (extra + 3))
    | none =>
      match cs with
      | [] => none
      | c :: rest =>
        if escapes && c = '\\' then
          match hiddenLine? rest with
          | some rest => lines? quote escapes fuel read rest
          | none =>
            match escape? rest with
            | some (c, rest) => lines? quote escapes fuel (c :: read) rest
            | none => none
        else
          match newline? cs with
          | some rest => lines? quote escapes fuel ('\n' :: read) rest
          | none => if isPlain c then lines? quote escapes fuel (c :: read) rest else none

/-- A text in quotes of one line, as it may also stand for a name. -/
def lineText? : List Char → Option (String × List Char)
  | '"' :: rest => basic? (rest.length + 1) [] rest
  | '\'' :: rest => literal? rest
  | _ => none

/-- A text in any quotes. A line end directly after three opening quotes does not count. -/
def text? : List Char → Option (String × List Char)
  | '"' :: '"' :: '"' :: rest => lines? '"' true (rest.length + 1) [] ((newline? rest).getD rest)
  | '\'' :: '\'' :: '\'' :: rest =>
    lines? '\'' false (rest.length + 1) [] ((newline? rest).getD rest)
  | cs => lineText? cs

/-! ## Numbers -/

/-- Digits with single underscores between them. -/
def digits? (isDigit : Char → Bool) (cs : List Char) : Option (List Char × List Char) :=
  let run := cs.takeWhile fun c => isDigit c || c = '_'
  let pieces := Text.splitWhere (· = '_') run
  if pieces.any List.isEmpty then none else some (pieces.flatten, cs.drop run.length)

/-- Digits without a zero in front of others. -/
def wholeDigits? (cs : List Char) : Option (List Char × List Char) :=
  match digits? Text.isDigit cs with
  | some (ds, rest) => if ds.length > 1 && ds.head? = some '0' then none else some (ds, rest)
  | none => none

/-- A sign, which may be missing. -/
def sign : List Char → List Char × List Char
  | '-' :: rest => (['-'], rest)
  | '+' :: rest => ([], rest)
  | cs => ([], cs)

/-- An integer that fits 64 bits. -/
def fitting (n : Int) : Option Int :=
  if Text.int64Min ≤ n && n ≤ Text.int64Max then some n else none

/-- A number in digits of a base, after its mark. -/
def based? (base : Nat) (cs : List Char) : Option (Int × List Char) := do
  let isDigit (c : Char) : Bool := match Text.hexValue? c with
    | some d => d < base
    | none => false
  let (ds, rest) ← digits? isDigit cs
  let n ← fitting (ds.foldl (fun n c => base * n + (Text.hexValue? c).getD 0) 0 : Nat)
  some (n, rest)

/-- An integer. -/
def integer? : List Char → Option (Int × List Char)
  | '0' :: 'x' :: rest => based? 16 rest
  | '0' :: 'o' :: rest => based? 8 rest
  | '0' :: 'b' :: rest => based? 2 rest
  | cs => do
    let (minus, rest) := sign cs
    let (ds, rest) ← wholeDigits? rest
    let n : Int := Text.digitsValue ds
    some (← fitting (if minus.isEmpty then n else -n), rest)

/-- The exponent of a number from its mark on. -/
def exponent? : List Char → Option (List Char × List Char)
  | c :: rest =>
    if c = 'e' || c = 'E' then do
      let (minus, rest) := sign rest
      let (ds, rest) ← digits? Text.isDigit rest
      some ('e' :: minus ++ ds, rest)
    else none
  | [] => none

/-- The fraction of a number from its point on, with an exponent that may follow. -/
def fraction? : List Char → Option (List Char × List Char)
  | '.' :: rest => do
    let (ds, rest) ← digits? Text.isDigit rest
    match rest with
    | 'e' :: _ => (exponent? rest).map fun (e, rest) => ('.' :: ds ++ e, rest)
    | 'E' :: _ => (exponent? rest).map fun (e, rest) => ('.' :: ds ++ e, rest)
    | _ => some ('.' :: ds, rest)
  | _ => none

/-- A number with a fraction or an exponent. Above the greatest finite number there is none. -/
def decimal? (cs : List Char) : Option (Float × List Char) := do
  let (minus, rest) := sign cs
  let (whole, rest) ← wholeDigits? rest
  let (more, rest) ← (fraction? rest).or (exponent? rest)
  let x ← Decimal.float? (minus ++ whole ++ more)
  if x == 1.0 / 0.0 then none else some (x, rest)

/-- A number with a fraction or an exponent, or the name of a special value. -/
def float? (cs : List Char) : Option (Float × List Char) :=
  let (minus, rest) := sign cs
  let signed (x : Float) : Float := if minus.isEmpty then x else -x
  match rest with
  | 'i' :: 'n' :: 'f' :: rest => some (signed (1.0 / 0.0), rest)
  | 'n' :: 'a' :: 'n' :: rest => some (signed (0.0 / 0.0), rest)
  | _ => decimal? cs

/-! ## Dates and times -/

/-- A number of a fixed count of digits, between bounds. -/
def field? (count lo hi : Nat) (cs : List Char) : Option (Nat × List Char) :=
  match Text.natural? (cs.take count) with
  | none => none
  | some n =>
    if (cs.take count).length = count && lo ≤ n && n ≤ hi then some (n, cs.drop count) else none

/-- The rest after a character. -/
def after? (c : Char) : List Char → Option (List Char)
  | [] => none
  | d :: rest => if c = d then some rest else none

/-- The rest after a date. -/
def date? (cs : List Char) : Option (List Char) := do
  let (year, cs) ← field? 4 0 9999 cs
  let (month, cs) ← field? 2 1 12 (← after? '-' cs)
  let (_, cs) ← field? 2 1 (Calendar.monthLength year month) (← after? '-' cs)
  some cs

/-- The rest after a time of the day. -/
def time? (cs : List Char) : Option (List Char) := do
  let (_, cs) ← field? 2 0 23 cs
  let (_, cs) ← field? 2 0 59 (← after? ':' cs)
  let (_, cs) ← field? 2 0 60 (← after? ':' cs)
  match cs with
  | '.' :: rest =>
    if (rest.takeWhile Text.isDigit).isEmpty then some cs else some (rest.dropWhile Text.isDigit)
  | cs => some cs

/-- The rest after a zone, which may be missing. -/
def skipZone : List Char → List Char
  | [] => []
  | c :: rest =>
    if c = 'Z' || c = 'z' then rest
    else if c = '+' || c = '-' then
      ((do
        let (_, cs) ← field? 2 0 23 rest
        let (_, cs) ← field? 2 0 59 (← after? ':' cs)
        some cs).getD (c :: rest))
    else c :: rest

/-- The rest after a time that may follow a date. -/
def skipTime : List Char → List Char
  | [] => []
  | c :: rest =>
    if c = 'T' || c = 't' || c = ' ' then
      match time? rest with
      | some rest => skipZone rest
      | none => c :: rest
    else c :: rest

/-- A date with or without a time, or a time. -/
def moment? (cs : List Char) : Option (String × List Char) :=
  (((date? cs).map skipTime).or (time? cs)).map fun rest =>
    (String.ofList (cs.take (cs.length - rest.length)), rest)

end KustoSearch.Toml
