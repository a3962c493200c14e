import KustoSearch.Text.Blank
import KustoSearch.Text.Numeral

/-! # Runs of code points

Tables of a property of characters. A table is written as lines of entries between blanks, all
numbers hexadecimal: a code point or the first and the last one of a run, after a slash the distance
between its members, and after a colon the values that go with its first member. So `41-5a:61`
says that the letters from `A` to `Z` go with those from `a` to `z`, and `100-12e/2:101` takes every
other code point.
-/

namespace KustoSearch.Text

/-- Code points at equal distances, with values for the first of them. -/
structure Run where
  first : Nat
  last : Nat
  step : Nat
  values : List Nat
deriving DecidableEq, Repr

namespace Run

/-- The numbers between the occurrences of a mark. -/
def numbers? (mark : Char) (cs : List Char) : Option (List Nat) :=
  (splitWhere (· = mark) cs).mapM (inBase? 16)

/-- The numbers after a mark; no mark, no numbers. -/
def tail? : List Char → Option (List Nat)
  | [] => some []
  | _ :: cs => numbers? '+' cs

/-- An entry of a table. -/
def read? (entry : List Char) : Option Run := do
  let (members, values) := entry.span (· ≠ ':')
  let (bounds, step) := members.span (· ≠ '/')
  let bounds ← numbers? '-' bounds
  let step ← tail? step
  let values ← tail? values
  match bounds with
  | [code] => some ⟨code, code, 1, values⟩
  | [first, last] => some ⟨first, last, step.headD 1, values⟩
  | _ => none

/-- A table in lines. -/
def ofLines (lines : List String) : List Run :=
  lines.flatMap fun line => (words line.toList).filterMap read?

/-- Whether a code point belongs to a run. -/
def holds (run : Run) (code : Nat) : Bool :=
  run.first ≤ code && code ≤ run.last && (code - run.first) % run.step == 0

/-- The run of a table that a code point belongs to. -/
def find? (runs : List Run) (code : Nat) : Option Run := runs.find? fun run => run.holds code

/-- Whether a code point belongs to a table. -/
def has (runs : List Run) (code : Nat) : Bool := runs.any fun run => run.holds code

/-- The values that go with a member: those of the first one, moved as far. -/
def valuesAt (run : Run) (code : Nat) : List Nat :=
  run.values.map fun value => value + (code - run.first)

end Run

end KustoSearch.Text
