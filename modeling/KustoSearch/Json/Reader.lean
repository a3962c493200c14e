import KustoSearch.Json.Value
import KustoSearch.Text.Utf8

/-! # Reading documents

A text is first read into a `Tree` tree, which keeps repeated names and marks numbers and texts
that have no value. `Tree.value?` turns the tree into a document: it refuses what has no value
and what is nested too deeply, and of a repeated name the last value counts. A typed record may
look at the tree itself, where a part that it skips need not have a value.
-/

namespace KustoSearch.Json

/-- A document as it is written. -/
inductive Tree where
  | null
  | bool (b : Bool)
  /-- A number, with no value when it is past the greatest finite one. -/
  | number (value : Option Number)
  /-- A quoted text, with no value when it holds half of a surrogate pair. -/
  | string (value : Option String)
  | array (items : List Tree)
  | object (members : List (Option String × Tree))
deriving Inhabited

namespace Reader

/-- The characters between tokens. -/
def isSpace (c : Char) : Bool := c = ' ' || c = '\n' || c = '\t' || c = '\r'

/-- The text from the next token on. -/
def skipSpace (cs : List Char) : List Char := cs.dropWhile isSpace

/-- Adds the digits of a whole part to a significand of 64 bits: the significand, and how many
digits did not fit. -/
def addWhole (significand overflow : Nat) : List Char → Nat × Nat
  | [] => (significand, overflow)
  | c :: cs =>
    let next := significand * 10 + Text.digitValue c
    if overflow = 0 && next < Nat.pow 2 64 then addWhole next 0 cs
    else addWhole significand (overflow + 1) cs

/-- Adds the digits of a fraction: the significand, and how many digits went in before the first
one that did not fit. -/
def addFraction (significand places : Nat) : List Char → Nat × Nat
  | [] => (significand, places)
  | c :: cs =>
    let next := significand * 10 + Text.digitValue c
    if next < Nat.pow 2 64 then addFraction next (places + 1) cs else (significand, places)

/-- `10^n` as a machine number. -/
def powerOfTen (n : Nat) : Float := Float.ofScientific 1 false n

/-- Divides by a power of ten in steps that a machine number can hold. -/
def scaleDown (x : Float) (n : Nat) : Float :=
  if h : n ≤ 308 then x / powerOfTen n
  else if x == 0.0 then x
  else scaleDown (x / powerOfTen 308) (n - 308)
termination_by n
decreasing_by omega

/-- The significand is rounded to a machine number, which is then scaled by one power of ten. A
result past the greatest finite number is no value. -/
def double? (negative : Bool) (significand : Nat) (exponent : Int) : Option Binary64 :=
  let start := Float.ofScientific significand false 0
  let magnitude :=
    if exponent < 0 then some (scaleDown start exponent.natAbs)
    else if exponent ≤ 308 then some (start * powerOfTen exponent.natAbs)
    else if significand = 0 then some start
    else none
  magnitude.bind fun x => Binary64.ofFloat? (if negative then -x else x)

/-- An integer literal; minus zero and what does not fit 64 bits become floating-point. -/
def integer? (negative : Bool) (significand : Nat) : Option Number :=
  if negative then
    if significand = 0 then (double? true 0 0).map .double
    else
      match Number.ofInt? (-significand) with
      | some n => some n
      | none => (double? true significand 0).map .double
  else Number.ofNat? significand

/-- The exponent of a number after its mark. -/
def exponent? (cs : List Char) : Option (Int × List Char) :=
  let (negative, cs) := match cs with
    | '-' :: cs => (true, cs)
    | '+' :: cs => (false, cs)
    | cs => (false, cs)
  let digits := cs.takeWhile Text.isDigit
  if digits.isEmpty then none
  else
    let n : Int := Text.digitsValue digits
    some (if negative then -n else n, cs.dropWhile Text.isDigit)

/-- The rest of a number from its exponent mark on, where there is one. -/
def withExponent? (negative : Bool) (significand : Nat) (exponent : Int) (cs : List Char) :
    Option (Option Number × List Char) :=
  let finish (e : Int) := (double? negative significand e).map Number.double
  match cs with
  | 'e' :: rest => (exponent? rest).map fun (e, rest) => (finish (exponent + e), rest)
  | 'E' :: rest => (exponent? rest).map fun (e, rest) => (finish (exponent + e), rest)
  | rest => some (finish exponent, rest)

/-- A number without its sign. -/
def magnitude? (negative : Bool) (cs : List Char) : Option (Option Number × List Char) :=
  let digits := cs.takeWhile Text.isDigit
  let rest := cs.dropWhile Text.isDigit
  if digits.isEmpty || (digits.length > 1 && digits.head? = some '0') then none
  else
    let (significand, overflow) := addWhole 0 0 digits
    match rest with
    | '.' :: rest =>
      let fraction := rest.takeWhile Text.isDigit
      if fraction.isEmpty then none
      else
        let (significand, places) := addFraction significand 0 fraction
        withExponent? negative significand (overflow - places) (rest.dropWhile Text.isDigit)
    | 'e' :: _ => withExponent? negative significand overflow rest
    | 'E' :: _ => withExponent? negative significand overflow rest
    | rest =>
      if overflow = 0 then some (integer? negative significand, rest)
      else some ((double? negative significand overflow).map .double, rest)

/-- A number. -/
def number? : List Char → Option (Option Number × List Char)
  | '-' :: cs => magnitude? true cs
  | cs => magnitude? false cs

/-- The number of four hexadecimal digits. -/
def hex4? (a b c d : Char) : Option Nat := do
  let a ← Text.hexValue? a
  let b ← Text.hexValue? b
  let c ← Text.hexValue? c
  let d ← Text.hexValue? d
  some (a * 4096 + b * 256 + c * 16 + d)

/-- The characters read so far in a quoted text, last first, with the first half of a surrogate
pair that waits for its second half. Nothing is kept once the text has lost its value. -/
structure Quote where
  chars : Option (List Char)
  half : Option Nat

namespace Quote

/-- Takes a character in; a waiting half then stays alone. -/
def add (q : Quote) (c : Char) : Quote :=
  match q.half with
  | some _ => ⟨none, none⟩
  | none => ⟨q.chars.map (c :: ·), none⟩

/-- Takes a 16-bit unit in. -/
def addUnit (q : Quote) (u : Nat) : Quote :=
  match q.half with
  | some h =>
    if 0xDC00 ≤ u && u ≤ 0xDFFF then
      ⟨q.chars.map (Char.ofNat (0x10000 + (h - 0xD800) * 1024 + (u - 0xDC00)) :: ·), none⟩
    else ⟨none, none⟩
  | none =>
    if 0xDC00 ≤ u && u ≤ 0xDFFF then ⟨none, none⟩
    else if 0xD800 ≤ u && u ≤ 0xDBFF then ⟨q.chars, some u⟩
    else ⟨q.chars.map (Char.ofNat u :: ·), none⟩

/-- The text, when it has a value. -/
def close (q : Quote) : Option String :=
  match q.half with
  | some _ => none
  | none => q.chars.map fun cs => String.ofList cs.reverse

end Quote

/-- The character of a one-letter escape. -/
def escape? (c : Char) : Option Char :=
  match c with
  | '"' => some '"'
  | '\\' => some '\\'
  | '/' => some '/'
  | 'b' => some (Char.ofNat 8)
  | 'f' => some (Char.ofNat 12)
  | 'n' => some '\n'
  | 'r' => some '\r'
  | 't' => some '\t'
  | _ => none

/-- A quoted text after its opening quote. -/
def quoteFrom? (q : Quote) : List Char → Option (Option String × List Char)
  | [] => none
  | '"' :: rest => some (q.close, rest)
  | '\\' :: 'u' :: a :: b :: c :: d :: rest =>
    match hex4? a b c d with
    | some u => quoteFrom? (q.addUnit u) rest
    | none => none
  | '\\' :: c :: rest =>
    match escape? c with
    | some c => quoteFrom? (q.add c) rest
    | none => none
  | c :: rest => if c.toNat < 0x20 || c = '\\' then none else quoteFrom? (q.add c) rest

mutual

/-- A value. The first argument bounds the number of nested steps. -/
def value? : Nat → List Char → Option (Tree × List Char)
  | 0, _ => none
  | fuel + 1, cs =>
    match skipSpace cs with
    | 'n' :: 'u' :: 'l' :: 'l' :: rest => some (.null, rest)
    | 't' :: 'r' :: 'u' :: 'e' :: rest => some (.bool true, rest)
    | 'f' :: 'a' :: 'l' :: 's' :: 'e' :: rest => some (.bool false, rest)
    | '"' :: rest => (quoteFrom? ⟨some [], none⟩ rest).map fun (s, rest) => (.string s, rest)
    | '[' :: rest =>
      match skipSpace rest with
      | ']' :: rest => some (.array [], rest)
      | rest => items? fuel [] rest
    | '\x7b' :: rest =>
      match skipSpace rest with
      | '\x7d' :: rest => some (.object [], rest)
      | rest => members? fuel [] rest
    | rest => (number? rest).map fun (n, rest) => (.number n, rest)

/-- The items of an array from one that must follow on. -/
def items? : Nat → List Tree → List Char → Option (Tree × List Char)
  | 0, _, _ => none
  | fuel + 1, read, cs =>
    match value? fuel cs with
    | none => none
    | some (item, rest) =>
      match skipSpace rest with
      | ',' :: rest => items? fuel (item :: read) rest
      | ']' :: rest => some (.array (item :: read).reverse, rest)
      | _ => none

/-- The members of an object from one that must follow on. -/
def members? : Nat → List (Option String × Tree) → List Char → Option (Tree × List Char)
  | 0, _, _ => none
  | fuel + 1, read, cs =>
    match skipSpace cs with
    | '"' :: rest =>
      match quoteFrom? ⟨some [], none⟩ rest with
      | none => none
      | some (name, rest) =>
        match skipSpace rest with
        | ':' :: rest =>
          match value? fuel rest with
          | none => none
          | some (item, rest) =>
            match skipSpace rest with
            | ',' :: rest => members? fuel ((name, item) :: read) rest
            | '\x7d' :: rest => some (.object ((name, item) :: read).reverse, rest)
            | _ => none
        | _ => none
    | _ => none

end

end Reader

/-- The tree of a text that is one document with nothing but blanks around it. -/
def Tree.read? (cs : List Char) : Option Tree :=
  match Reader.value? (2 * cs.length + 2) cs with
  | some (tree, rest) => if (Reader.skipSpace rest).isEmpty then some tree else none
  | none => none

mutual

/-- The document that a tree stands for, with at most `depth` levels of arrays and objects. -/
def Tree.value? (depth : Nat) : Tree → Option Json
  | .null => some .null
  | .bool b => some (.bool b)
  | .number n => n.map .number
  | .string s => s.map .string
  | .array items =>
    match depth with
    | 0 => none
    | depth + 1 => (Tree.values? depth items).map .array
  | .object members =>
    match depth with
    | 0 => none
    | depth + 1 => (Tree.members? depth members).map fun ms => .object (membersOf ms)

/-- The documents of a list of trees. -/
def Tree.values? (depth : Nat) : List Tree → Option (List Json)
  | [] => some []
  | tree :: trees =>
    match Tree.value? depth tree, Tree.values? depth trees with
    | some v, some vs => some (v :: vs)
    | _, _ => none

/-- The members of an object as written. -/
def Tree.members? (depth : Nat) : List (Option String × Tree) → Option (List (String × Json))
  | [] => some []
  | (name, tree) :: rest =>
    match name, Tree.value? depth tree, Tree.members? depth rest with
    | some name, some v, some vs => some ((name, v) :: vs)
    | _, _, _ => none

end

/-- How many levels of arrays and objects a document may have. -/
def maxDepth : Nat := 127

/-- The document that a text is. -/
def read? (cs : List Char) : Option Json := (Tree.read? cs).bind (Tree.value? maxDepth)

/-- The document that a sequence of bytes is. -/
def readBytes? (bs : List UInt8) : Option Json := (Text.Utf8.decode? bs).bind read?

end KustoSearch.Json
