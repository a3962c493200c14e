import KustoSearch.Calendar.Instant
import KustoSearch.Text.Blank

/-! # Reading dates

Absolute dates and date-times. `timestamp?` reads the exchange form with a zone; `date?` reads that
form and, failing it, five looser ones without a zone, where numbers may have fewer digits and
blanks may stand before them.
-/

namespace KustoSearch.Calendar

/-- The second 60 of a minute is kept as second 59 with a whole second of nanoseconds added. -/
def timeOfDay? (hour minute second nanos : Nat) : Option (Nat × Nat) :=
  if hour < 24 && minute < 60 && second ≤ 60 then
    if second = 60 then some (hour * 3600 + minute * 60 + 59, 1000000000 + nanos)
    else some (hour * 3600 + minute * 60 + second, nanos)
  else none

/-- A run of at least `least` and at most `most` digits, read greedily. -/
def digits? (least most : Nat) (cs : List Char) : Option (Nat × List Char) :=
  let run := (cs.take most).takeWhile Text.isDigit
  if run.length < least || run.isEmpty then none
  else some (Text.digitsValue run, cs.drop run.length)

/-- One given character. -/
def char? (c : Char) : List Char → Option (List Char)
  | [] => none
  | d :: cs => if c = d then some cs else none

/-- The digits of a fraction of a second: nanoseconds from the first nine, the others skipped. -/
def nanos? (cs : List Char) : Option (Nat × List Char) :=
  let run := cs.takeWhile Text.isDigit
  if run.isEmpty then none
  else
    let kept := run.take 9
    some (Text.digitsValue kept * Nat.pow 10 (9 - kept.length), cs.dropWhile Text.isDigit)

/-- A fraction of a second with its point, where there is one. -/
def fraction? (cs : List Char) : Option (Nat × List Char) :=
  match cs with
  | '.' :: rest => nanos? rest
  | rest => some (0, rest)

/-- A zone as seconds east. -/
def zone? (cs : List Char) : Option (Int × List Char) :=
  match cs with
  | [] => none
  | c :: rest =>
    if c = 'Z' || c = 'z' then some (0, rest)
    else do
      let sign ← if c = '+' then some 1 else if c = '-' || c = '−' then some (-1) else none
      let (hours, rest) ← digits? 2 2 rest
      let rest ← char? ':' rest
      let (minutes, rest) ← digits? 2 2 rest
      if minutes < 60 && hours < 24 then some (sign * (hours * 3600 + minutes * 60 : Nat), rest)
      else none

/-- A date and time in the exchange form: every field with all its digits, and a zone. -/
def timestamp? (cs : List Char) : Option Instant := do
  let (year, cs) ← digits? 4 4 cs
  let cs ← char? '-' cs
  let (month, cs) ← digits? 2 2 cs
  let cs ← char? '-' cs
  let (day, cs) ← digits? 2 2 cs
  let cs ← match cs with
    | c :: cs => if c = 'T' || c = 't' || c = ' ' then some cs else none
    | [] => none
  let (hour, cs) ← digits? 2 2 cs
  let cs ← char? ':' cs
  let (minute, cs) ← digits? 2 2 cs
  let cs ← char? ':' cs
  let (second, cs) ← digits? 2 2 cs
  let (nanos, cs) ← fraction? cs
  let (offset, cs) ← zone? cs
  let date ← Date.ofParts? year month day
  let (secondOfDay, nanos) ← timeOfDay? hour minute second nanos
  if cs.isEmpty then
    let t := Instant.ofDate date secondOfDay nanos
    some ⟨t.seconds - offset, t.nanos⟩
  else none

/-- The parts of the looser forms. -/
inductive Part where
  | year
  | month
  | day
  | hour
  | minute
  | second
  | fraction
  /-- One given character. -/
  | mark (c : Char)
  /-- Any number of blanks, none included. -/
  | gap
deriving DecidableEq, Repr

/-- What the parts read so far say. -/
structure Fields where
  year : Int := 0
  month : Nat := 0
  day : Nat := 0
  hour : Nat := 0
  minute : Nat := 0
  second : Nat := 0
  nanos : Nat := 0
deriving Repr

/-- A year: up to four digits, or a sign and any number of them. -/
def year? (cs : List Char) : Option (Int × List Char) :=
  match cs with
  | '-' :: rest => (digits? 1 rest.length rest).map fun (y, rest) => (-(y : Int), rest)
  | '+' :: rest => (digits? 1 rest.length rest).map fun (y, rest) => ((y : Int), rest)
  | rest => (digits? 1 4 rest).map fun (y, rest) => ((y : Int), rest)

/-- A number of one or two digits after blanks. -/
def short? (cs : List Char) : Option (Nat × List Char) := digits? 1 2 (Text.trimLeft cs)

/-- Reads one part. -/
def Part.read? (part : Part) (f : Fields) (cs : List Char) : Option (Fields × List Char) :=
  match part with
  | .year => (year? (Text.trimLeft cs)).map fun (n, cs) => ({ f with year := n }, cs)
  | .month => (short? cs).map fun (n, cs) => ({ f with month := n }, cs)
  | .day => (short? cs).map fun (n, cs) => ({ f with day := n }, cs)
  | .hour => (short? cs).map fun (n, cs) => ({ f with hour := n }, cs)
  | .minute => (short? cs).map fun (n, cs) => ({ f with minute := n }, cs)
  | .second => (short? cs).map fun (n, cs) => ({ f with second := n }, cs)
  | .fraction => (fraction? cs).map fun (n, cs) => ({ f with nanos := n }, cs)
  | .mark c => (char? c cs).map fun cs => (f, cs)
  | .gap => some (f, Text.trimLeft cs)

/-- Reads the parts one after another up to the end of the text. -/
def readParts? : List Part → Fields → List Char → Option Fields
  | [], f, [] => some f
  | [], _, _ :: _ => none
  | part :: parts, f, cs =>
    match part.read? f cs with
    | some (f, cs) => readParts? parts f cs
    | none => none

/-- The instant that the fields name, without a zone. -/
def Fields.instant? (f : Fields) : Option Instant := do
  let date ← Date.ofParts? f.year f.month f.day
  let (secondOfDay, nanos) ← timeOfDay? f.hour f.minute f.second f.nanos
  some (Instant.ofDate date secondOfDay nanos)

/-- Year, month and day. -/
def dateParts : List Part := [.year, .mark '-', .month, .mark '-', .day]

/-- The looser forms in the order in which they are tried. -/
def looseForms : List (List Part) := [
  dateParts ++ [.mark 'T', .hour, .mark ':', .minute, .mark ':', .second, .fraction],
  dateParts ++ [.mark 'T', .hour, .mark ':', .minute, .mark ':', .second],
  dateParts ++ [.gap, .hour, .mark ':', .minute, .mark ':', .second, .fraction],
  dateParts ++ [.mark 'T', .hour, .mark ':', .minute],
  dateParts]

/-- A date or date-time in any of the forms, with blanks around it allowed. -/
def date? (cs : List Char) : Option Instant :=
  let cs := Text.trim cs
  match timestamp? cs with
  | some t => some t
  | none => looseForms.findSome? fun form => (readParts? form {} cs).bind Fields.instant?

/-- The instant of a timestamp text: the exchange form as it stands, or any other form. -/
def instant? (s : String) : Option Instant :=
  match timestamp? s.toList with
  | some t => some t
  | none => date? s.toList

end KustoSearch.Calendar
