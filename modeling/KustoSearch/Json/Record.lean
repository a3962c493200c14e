import KustoSearch.Json.Reader

/-! # Records in documents

A record is written as an object with named fields or as an array with the fields in order. The
functions here find the fields and read their values; they answer `none` when a document does not
have the shape that is asked for.
-/

namespace KustoSearch.Json

/-- The one member that has one of `names`; outer `none` when there are several. -/
def field? {α : Type} (names : List String) (members : List (String × α)) :
    Option (Option α) :=
  match members.filter fun (n, _) => names.contains n with
  | [] => some none
  | [(_, value)] => some (some value)
  | _ => none

/-- The values of an object's fields, in the order of `fields`. Each field lists its name and the
other names that may stand for it; two of them in one object are an error. -/
def objectSlots? {α : Type} (fields : List (List String)) (members : List (String × α)) :
    Option (List (Option α)) :=
  fields.mapM fun names => field? names members

/-- The values of a record's fields written as an array; fields at the end may be left out. -/
def arraySlots? {α : Type} (fields : List (List String)) (items : List α) :
    Option (List (Option α)) :=
  if items.length ≤ fields.length then
    some (items.map some ++ List.replicate (fields.length - items.length) none)
  else none

/-- The values of a record's fields, from an object or an array. -/
def slots? (fields : List (List String)) : Json → Option (List (Option Json))
  | .object members => objectSlots? fields members
  | .array items => arraySlots? fields items
  | _ => none

/-- The trees of a record's fields, for a record that is read where it is written: every name has
to have a value, while the fields that are not asked for need not. -/
def Tree.slots? (fields : List (List String)) : Tree → Option (List (Option Tree))
  | .object members => do
    let named ← members.mapM fun (name, tree) => name.map fun n => (n, tree)
    objectSlots? fields named
  | .array items => arraySlots? fields items
  | _ => none

/-- The text that a tree is. -/
def Tree.string? : Tree → Option String
  | .string value => value
  | _ => none

/-- A field of a tree that may be absent or null. -/
def Tree.optional? {α : Type} (read : Tree → Option α) : Option Tree → Option (Option α)
  | none => some none
  | some .null => some none
  | some tree => (read tree).map some

/-- The values of the fields of an object. -/
def namedSlots? (fields : List (List String)) : Json → Option (List (Option Json))
  | .object members => objectSlots? fields members
  | _ => none

/-- A field that may be absent or null. -/
def optional? {α : Type} (read : Json → Option α) : Option Json → Option (Option α)
  | none => some none
  | some .null => some none
  | some value => (read value).map some

/-- A field that has to be there. -/
def required? {α : Type} (read : Json → Option α) : Option Json → Option α
  | none => none
  | some value => read value

/-- Any value at all. -/
def any? (value : Json) : Option Json := some value

/-- A truth value. -/
def bool? : Json → Option Bool
  | .bool b => some b
  | _ => none

/-- A natural number below `2^64`. -/
def nat? : Json → Option Nat
  | .number n => n.toNat?
  | _ => none

/-- An integer of 32 bits. -/
def int32? : Json → Option Int
  | .number n => n.toInt?.filter fun i => Text.int32Min ≤ i && i ≤ Text.int32Max
  | _ => none

/-- Any number, as floating-point. -/
def binary64? : Json → Option Binary64
  | .number n => some n.toBinary64
  | _ => none

/-- An array with all items read alike. -/
def list? {α : Type} (read : Json → Option α) : Json → Option (List α)
  | .array items => items.mapM read
  | _ => none

/-- A list of texts. -/
def strings? : Json → Option (List String) := list? string?

/-- An object with all values read alike; its names are distinct. -/
def table? {α : Type} (read : Json → Option α) : Json → Option (List (String × α))
  | .object members =>
    (members.mapM fun (m : String × Json) => (read m.2).map fun v => (m.1, v)).map membersOf
  | _ => none

mutual

/-- How many levels of arrays and objects a document has, itself counted as one. -/
def depth : Json → Nat
  | .array items => depths items + 1
  | .object members => memberDepths members + 1
  | _ => 1

/-- The greatest depth in a list of documents. -/
def depths : List Json → Nat
  | [] => 0
  | item :: items => max (depth item) (depths items)

/-- The greatest depth among the members of an object. -/
def memberDepths : List (String × Json) → Nat
  | [] => 0
  | (_, value) :: members => max (depth value) (memberDepths members)

end

end KustoSearch.Json
