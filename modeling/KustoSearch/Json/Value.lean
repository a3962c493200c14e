import KustoSearch.Decimal.Layout

/-! # JSON values

Documents with ordered members and three kinds of number. A natural number, a negative integer
and a floating-point number are different values even where they count the same, and each number
has exactly one representation.
-/

namespace KustoSearch

/-- A number of a document. -/
inductive Number where
  /-- A natural number below `2^64`. -/
  | natural (n : UInt64)
  /-- The negative integer `-(k + 1)`, from `-1` down to `-2^63`. -/
  | negative (k : Fin (Nat.pow 2 63))
  | double (x : Binary64)
deriving DecidableEq

namespace Number

/-- The number for a natural, when it is below `2^64`. -/
def ofNat? (n : Nat) : Option Number :=
  if n < Nat.pow 2 64 then some (.natural n.toUInt64) else none

/-- The number for an integer, when it fits 64 bits. -/
def ofInt? : Int → Option Number
  | .ofNat n => ofNat? n
  | .negSucc k => if h : k < Nat.pow 2 63 then some (.negative ⟨k, h⟩) else none

/-- The integer that a number of an integer kind stands for. -/
def toInt? : Number → Option Int
  | .natural n => some n.toNat
  | .negative k => some (.negSucc k)
  | .double _ => none

/-- The natural number below `2^64` that a number of an integer kind stands for. -/
def toNat? : Number → Option Nat
  | .natural n => some n.toNat
  | _ => none

/-- The integer of 64 bits that a number of an integer kind stands for. -/
def toInt64? (n : Number) : Option Int := n.toInt?.filter (· ≤ Int.pow 2 63 - 1)

/-- The nearest finite floating-point number. -/
def toBinary64 : Number → Binary64
  | .natural n => (Binary64.ofNat? n.toNat).getD .zero
  | .negative k => (Binary64.ofFloat? (-(Float.ofScientific (k + 1) false 0))).getD .zero
  | .double x => x

/-- Floating-point numbers in documents: always visibly such, in exponent form below `10^-5`
and from `10^16` on, with a signed exponent. -/
def doubleLayout : Decimal.Layout where
  positional := some (-5, 15)
  pointZero := true
  plusExponent := true
  tie := .toEven

/-- The text of a number in a document. -/
def chars : Number → List Char
  | .natural n => Text.decimal n.toNat
  | .negative k => '-' :: Text.decimal (k + 1)
  | .double x => doubleLayout.text x

/-- The text of a number in a document. -/
def text (n : Number) : String := String.ofList n.chars

end Number

/-- A document. -/
inductive Json where
  | null
  | bool (b : Bool)
  | number (n : Number)
  | string (s : String)
  | array (items : List Json)
  | object (members : List (String × Json))
deriving BEq, Inhabited

/-- Members with `name` holding `value`: in its old place when it is there, otherwise last. -/
def putMember {α : Type} (name : String) (value : α) : List (String × α) → List (String × α)
  | [] => [(name, value)]
  | (n, v) :: rest =>
    if n = name then (n, value) :: rest else (n, v) :: putMember name value rest

/-- Members from pairs; a name that comes again keeps its first place and its last value. -/
def membersOf {α : Type} (pairs : List (String × α)) : List (String × α) :=
  pairs.foldl (fun members (name, value) => putMember name value members) []

/-- The value of a member. -/
def member? {α : Type} (name : String) (members : List (String × α)) : Option α :=
  (members.find? fun (n, _) => n = name).map Prod.snd

namespace Json

/-- A natural number as a document; past `2^64` the nearest floating-point number. -/
def ofNat (n : Nat) : Json :=
  match Number.ofNat? n with
  | some n => .number n
  | none => .number (.double ((Binary64.ofNat? n).getD .zero))

/-- An integer as a document; outside 64 bits it is null. -/
def ofInt (n : Int) : Json :=
  match Number.ofInt? n with
  | some n => .number n
  | none => .null

/-- A text, or null where there is none. -/
def ofOptionString : Option String → Json
  | none => .null
  | some s => .string s

/-- A list of texts. -/
def ofStrings (ss : List String) : Json := .array (ss.map .string)

/-- The text that a document is. -/
def string? : Json → Option String
  | .string s => some s
  | _ => none

/-- Whether the document is null. -/
def isNull : Json → Bool
  | .null => true
  | _ => false

/-- A member of an object; anything else has none. -/
def get? (name : String) : Json → Option Json
  | .object members => member? name members
  | _ => none

end Json

end KustoSearch
