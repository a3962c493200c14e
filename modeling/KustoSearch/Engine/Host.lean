import KustoSearch.DomainName.Ascii
import KustoSearch.Text.Percent
import KustoSearch.Text.Utf8

/-! # Hosts

A host is a name, a dotted number or a bracketed one; a name whose last label is a number has to be a
dotted number.
-/

namespace KustoSearch

/-- Where an address leads to. -/
inductive Host where
  | name (labels : String)
  | ipv4 (address : Nat)
  /-- Eight numbers of 16 bits. -/
  | ipv6 (pieces : List Nat)
deriving DecidableEq, Repr

namespace Host

/-! ## Dotted numbers -/

/-- A part of a dotted number: decimal, octal after a zero, or hexadecimal after `0x`. -/
def part? : List Char → Option Nat
  | [] => none
  | ['0'] => some 0
  | ['0', 'x'] => some 0
  | ['0', 'X'] => some 0
  | '0' :: 'x' :: cs => Text.inBase? 16 cs
  | '0' :: 'X' :: cs => Text.inBase? 16 cs
  | '0' :: cs => Text.inBase? 8 cs
  | cs => Text.inBase? 10 cs

/-- The labels of a name; a point at the end adds none. -/
def labels (cs : List Char) : List (List Char) :=
  let parts := Text.splitWhere (· = '.') cs
  if parts.getLast? = some [] && parts.length > 1 then parts.dropLast else parts

/-- Whether the last label of a name is a number. -/
def endsInNumber (cs : List Char) : Bool :=
  match (labels cs).getLast? with
  | none => false
  | some last => (!last.isEmpty && last.all Text.isDigit) || (part? last).isSome

/-- The number of a dotted number: all parts but the last are bytes, and the last fills the rest. -/
def ipv4? (cs : List Char) : Option Nat := do
  let parts := labels cs
  if parts.length > 4 then none
  else
    let numbers ← parts.mapM part?
    let last ← numbers.getLast?
    let bytes := numbers.dropLast
    if bytes.any (· > 255) || last ≥ Nat.pow 256 (5 - numbers.length) then none
    else some (bytes.foldl (fun n b => 256 * n + b) 0 * Nat.pow 256 (4 - bytes.length) + last)

/-! ## Bracketed numbers -/

/-- Four bytes in decimal, without leading zeros, as two pieces. -/
def dottedTail? (cs : List Char) : Option (List Nat) := do
  let byte? (cs : List Char) : Option Nat :=
    (Text.natural? cs).filter fun n => n ≤ 255 && cs = Text.decimal n
  match ← (Text.splitWhere (· = '.') cs).mapM byte? with
  | [a, b, c, d] => some [256 * a + b, 256 * c + d]
  | _ => none

/-- One to four hexadecimal digits. -/
def piece? (cs : List Char) : Option Nat :=
  if cs.length ≤ 4 then Text.inBase? 16 cs else none

/-- Pieces between colons; the last one may be a dotted number when `tail` says so. -/
def pieces? (tail : Bool) : List (List Char) → Option (List Nat)
  | [] => some []
  | [last] =>
    match piece? last with
    | some n => some [n]
    | none => if tail then dottedTail? last else none
  | cs :: rest => do
    let n ← piece? cs
    let ns ← pieces? tail rest
    some (n :: ns)

/-- The pieces of a text; an empty text has none. -/
def piecesOf? (tail : Bool) (cs : List Char) : Option (List Nat) :=
  if cs.isEmpty then some [] else pieces? tail (Text.splitWhere (· = ':') cs)

/-- A bracketed number; two colons in a row stand for one zero or more, and come once. -/
def ipv6? (cs : List Char) : Option (List Nat) :=
  match Text.splitAt? [':', ':'] cs with
  | none => (piecesOf? true cs).filter fun ns => ns.length = 8
  | some (before, after) => do
    let left ← piecesOf? false before
    let right ← piecesOf? true after
    if left.length + right.length ≤ 7 then
      some (left ++ List.replicate (8 - left.length - right.length) 0 ++ right)
    else none

/-- The longest run of zeros: where it begins and its length, the first of several. -/
def zeros (pieces : List Nat) : Nat × Nat :=
  let runs := (List.range pieces.length).map fun i =>
    (i, ((pieces.drop i).takeWhile (· = 0)).length)
  runs.foldl (fun best run => if best.2 < run.2 then run else best) (0, 0)

/-- Pieces between colons. -/
def piecesText (pieces : List Nat) : String :=
  Text.join ":" (pieces.map fun n => String.ofList (Text.hexadecimal n))

/-- The text of a bracketed number: two colons stand for the longest run of two zeros or more. -/
def ipv6Text (pieces : List Nat) : String :=
  let (start, size) := zeros pieces
  if size < 2 then "[" ++ piecesText pieces ++ "]"
  else "[" ++ piecesText (pieces.take start) ++ "::" ++ piecesText (pieces.drop (start + size)) ++ "]"

/-! ## Hosts -/

/-- The host of a text. -/
def read? : List Char → Option Host
  | '[' :: cs =>
    if cs.getLast? = some ']' then (ipv6? cs.dropLast).map .ipv6 else none
  | cs => do
    let name ← DomainName.ascii? (Text.Utf8.decodeLossy (Text.Percent.unescape cs))
    if name.isEmpty then none
    else if endsInNumber name then (ipv4? name).map .ipv4
    else some (.name (String.ofList name))

/-- The text of a host. -/
def text : Host → String
  | .name labels => labels
  | .ipv4 address =>
    Text.join "." ([16777216, 65536, 256, 1].map fun unit =>
      Text.naturalText (address / unit % 256))
  | .ipv6 pieces => ipv6Text pieces

end Host

end KustoSearch
