import KustoSearch.Json.Value
import KustoSearch.Proofs.Kql.Condition
import KustoSearch.Proofs.Kql.Steps
import Mathlib.Logic.Function.Basic
import Mathlib.Order.BoundedOrder.Basic
import Mathlib.Order.WithBot

/-! # What a statement computes

The relational meaning of what is read of a statement. An `Engine` says what single expressions
compute; `Gives` says what a step may give for some rows. Groups come in any order, and rows that
the order does not tell apart do, too. A binding gives what its steps give one after another, and
may name the tables that are bound before it: `Runs`. The tables of a whole statement are those of
`Computes`.
-/

namespace KustoSearch.Relational

open Kql (Token Step Binding Statement)

/-- A row of a table: cells under the names of their columns. -/
abbrev Record (Cell : Type) := List (String × Cell)

variable {Cell : Type} [LinearOrder Cell] [OrderBot Cell]

/-- The cell of a column. The least cell is null, and a column that is missing is null. -/
def cell (column : String) (row : Record Cell) : Cell := (member? column row).getD ⊥

/-- The cells of some columns. -/
def cells (columns : List String) (row : Record Cell) : List Cell := columns.map fun c => cell c row

variable (Cell) in
/-- What an engine makes of single expressions. -/
structure Engine where
  /-- The cell of a number. -/
  natural : Nat → Cell
  natural_strictMono : StrictMono natural
  /-- Whether a row passes a test. -/
  truth : Record Cell → Kql.Test → Bool
  /-- Whether a row passes a condition that is not made of tests. -/
  condition : List Token → Record Cell → Bool
  /-- The value of an expression for a row. -/
  value : List Token → Record Cell → Cell
  /-- The value of an expression over the rows of a group. -/
  aggregate : List Token → List (Record Cell) → Cell
  /-- Rows are counted. -/
  aggregate_countTokens : ∀ rows, aggregate Kql.countTokens rows = natural rows.length
  /-- A column is compared with a number. -/
  truth_atLeast : ∀ {row column numeral m n}, cell column row = natural m →
    Text.natural? numeral.toList = some n →
    (truth row (.holds (.column column) .atLeast (.number numeral)) = true ↔ n ≤ m)
  /-- A column whose name has no brackets is compared with a number. -/
  condition_atMost : ∀ {row column numeral m n}, cell column row = natural m →
    Text.natural? numeral.toList = some n →
    (condition [.name column, .mark "<=", .number numeral] row = true ↔ m ≤ n)

/-! ## Conditions -/

/-- Whether a row passes a condition. What is made of tests comes to what its tests come to. -/
def Engine.passes (engine : Engine Cell) (condition : List Token) (row : Record Cell) : Bool :=
  ((Kql.Frame.readFrom [] .empty condition).bind
    (Kql.Expression.truth? (engine.truth row))).getD (engine.condition condition row)

/-! ## Groups -/

/-- The keys of a row. -/
def Engine.keys (engine : Engine Cell) (by_ : List (String × List Token)) (row : Record Cell) :
    List Cell :=
  by_.map fun k => engine.value k.2 row

/-- The rows that have some keys. -/
def Engine.members (engine : Engine Cell) (by_ : List (String × List Token))
    (rows : List (Record Cell)) (keys : List Cell) : List (Record Cell) :=
  rows.filter fun row => engine.keys by_ row = keys

/-- The row that a group becomes: its keys, and what is computed over its rows. -/
def Engine.group (engine : Engine Cell) (columns by_ : List (String × List Token))
    (rows : List (Record Cell)) (keys : List Cell) : Record Cell :=
  (by_.map Prod.fst).zip keys ++
    columns.map fun c => (c.1, engine.aggregate c.2 (engine.members by_ rows keys))

/-! ## Orders -/

/-- The place of a cell in an ascending order; with nulls last they come after all others. -/
def place (k : OrderKey) (c : Cell) : WithTop Cell :=
  if k.nullsLast ∧ ¬ k.descending ∧ c = ⊥ then ⊤ else c

/-- Whether a cell comes before another. -/
def precedes (k : OrderKey) (c d : Cell) : Prop :=
  if k.descending then place k d < place k c else place k c < place k d

/-- Whether a row may stand before another: the first key that tells them apart decides. -/
def inOrder : List OrderKey → Record Cell → Record Cell → Prop
  | [], _, _ => True
  | k :: keys, r, s =>
    precedes k (cell k.column r) (cell k.column s) ∨
      cell k.column r = cell k.column s ∧ inOrder keys r s

/-! ## Numbers of rows -/

/-- The number of a row after the one before it, which has a number. -/
def next (restart : List String) : Option (Record Cell × Nat) → Record Cell → Nat
  | none, _ => 1
  | some (last, n), row => if cells restart last = cells restart row then n + 1 else 1

/-- Rows with their numbers in a column; where one of some columns changes it starts again. -/
def numbered (engine : Engine Cell) (column : String) (restart : List String) :
    Option (Record Cell × Nat) → List (Record Cell) → List (Record Cell)
  | _, [] => []
  | before, row :: rows =>
    putMember column (engine.natural (next restart before row)) row ::
      numbered engine column restart (some (row, next restart before row)) rows

/-! ## Steps -/

/-- The tables that are bound, by their names. -/
abbrev Environment (Cell : Type) := String → Option (List (Record Cell))

/-- What a step may give for some rows. -/
inductive Gives (engine : Engine Cell) (env : Environment Cell) :
    Step → (rows out : List (Record Cell)) → Prop where
  | filter (condition : List Token) (rows : List (Record Cell)) :
      Gives engine env (.filter condition) rows (rows.filter (engine.passes condition))
  /-- There is one group for all rows with the same keys. -/
  | summarize (columns by_ : List (String × List Token)) {rows : List (Record Cell)}
      {groups : List (List Cell)} (distinct : groups.Nodup)
      (mem : ∀ keys, keys ∈ groups ↔ ∃ row ∈ rows, engine.keys by_ row = keys) :
      Gives engine env (.summarize columns by_) rows (groups.map (engine.group columns by_ rows))
  | within (columns : List String) {table : String} {rows other out : List (Record Cell)}
      (named : env table = some other)
      (perm : out.Perm (rows.filter fun row =>
        other.any fun o => cells columns o = cells columns row)) :
      Gives engine env (.within table columns) rows out
  | order {keys : List OrderKey} {rows out : List (Record Cell)} (perm : out.Perm rows)
      (sorted : out.Pairwise (inOrder keys)) : Gives engine env (.order keys) rows out
  | take (n : Nat) (rows : List (Record Cell)) : Gives engine env (.take n) rows (rows.take n)
  | number (column : String) (restart : List String) (rows : List (Record Cell)) :
      Gives engine env (.number column restart) rows (numbered engine column restart none rows)
  | drop (column : String) (rows : List (Record Cell)) :
      Gives engine env (.drop column) rows (rows.map fun row => row.filter fun c => c.1 ≠ column)

/-- What steps may give one after another. -/
inductive Pipeline (engine : Engine Cell) (env : Environment Cell) :
    List Step → (rows out : List (Record Cell)) → Prop where
  | done (rows : List (Record Cell)) : Pipeline engine env [] rows rows
  | step {step : Step} {steps : List Step} {rows middle out : List (Record Cell)}
      (first : Gives engine env step rows middle) (rest : Pipeline engine env steps middle out) :
      Pipeline engine env (step :: steps) rows out

/-! ## Bindings -/

/-- What bindings may compute one after another. Each one can name the tables bound before it. -/
inductive Runs (engine : Engine Cell) :
    List Binding → (env last : Environment Cell) → Prop where
  | done (env : Environment Cell) : Runs engine [] env env
  | bind {binding : Binding} {bindings : List Binding} {env last : Environment Cell}
      {rows out : List (Record Cell)} (named : env binding.source = some rows)
      (computes : Pipeline engine env binding.steps rows out)
      (rest : Runs engine bindings (Function.update env binding.name (some out)) last) :
      Runs engine (binding :: bindings) env last

/-- The environment of one table. -/
def single (name : String) (rows : List (Record Cell)) : Environment Cell :=
  Function.update (fun _ => none) name (some rows)

/-- Whether some tables are what a statement binds, for the rows of the table that it selects
from. -/
def Computes (engine : Engine Cell) (statement : Statement) (source : List (Record Cell))
    (tables : Environment Cell) : Prop :=
  ∃ selected, Pipeline engine (fun _ => none) statement.selection.steps source selected ∧
    Runs engine statement.bindings (single statement.selection.name selected) tables

/-! ## Conditions on numbers -/

theorem readFrom_atLeast (column numeral : String) :
    Kql.Frame.readFrom [] .empty [.column column, .mark ">=", .number numeral] =
      some (.compare .atLeast (.column column) (.number numeral)) := rfl

theorem readFrom_atMost (numeral : String) :
    Kql.Frame.readFrom [] .empty [.name Counter.rank.column, .mark "<=", .number numeral] =
      some (.compare .atMost (.name Counter.rank.column) (.number numeral)) := rfl

section

variable (engine : Engine Cell) {row : Record Cell} {numeral : String} {m n : Nat}

theorem Engine.passes_atLeast {column : String} (hcell : cell column row = engine.natural m)
    (hnumeral : Text.natural? numeral.toList = some n) :
    engine.passes [.column column, .mark ">=", .number numeral] row = true ↔ n ≤ m := by
  rw [passes, readFrom_atLeast]
  exact engine.truth_atLeast hcell hnumeral

/-- A bare name is no test, so that the engine itself decides. -/
theorem Engine.passes_atMost (hcell : cell Counter.rank.column row = engine.natural m)
    (hnumeral : Text.natural? numeral.toList = some n) :
    engine.passes [.name Counter.rank.column, .mark "<=", .number numeral] row = true ↔
      m ≤ n := by
  rw [passes, readFrom_atMost]
  exact engine.condition_atMost hcell hnumeral

end

/-! ## Steps one after another -/

section Pipeline

variable {engine : Engine Cell} {env : Environment Cell} {steps more : List Step}
  {rows out : List (Record Cell)}

theorem pipeline_append :
    Pipeline engine env (steps ++ more) rows out ↔
      ∃ middle, Pipeline engine env steps rows middle ∧ Pipeline engine env more middle out := by
  induction steps generalizing rows with
  | nil =>
    constructor
    · intro h
      exact ⟨rows, .done rows, h⟩
    · rintro ⟨middle, hdone, h⟩
      cases hdone
      exact h
  | cons step steps ih =>
    constructor
    · intro h
      cases h with
      | step first rest =>
        obtain ⟨middle, hsteps, hmore⟩ := ih.mp rest
        exact ⟨middle, .step first hsteps, hmore⟩
    · rintro ⟨middle, hsteps, hmore⟩
      cases hsteps with
      | step first rest => exact .step first (ih.mpr ⟨middle, rest, hmore⟩)

theorem pipeline_filter {condition : List Token} :
    Pipeline engine env [.filter condition] rows out ↔
      out = rows.filter (engine.passes condition) := by
  constructor
  · intro h
    obtain _ | ⟨⟨_, _⟩, hdone⟩ := h
    cases hdone
    rfl
  · rintro rfl
    exact .step (.filter condition rows) (.done _)

end Pipeline

/-! ## Bindings one after another -/

section Runs

variable {engine : Engine Cell} {bindings : List Binding} {env last : Environment Cell}

/-- A table that is not bound again stays as it is. -/
theorem Runs.eq_of_not_mem (h : Runs engine bindings env last) {name : String}
    (hname : name ∉ bindings.map Binding.name) : last name = env name := by
  induction h with
  | done env => rfl
  | bind _ _ _ ih =>
    rw [List.map_cons, List.mem_cons, not_or] at hname
    rw [ih hname.2, Function.update_of_ne hname.1]

/-- A binding computes its table from tables that are as they are in the end, unless they are bound
behind it. -/
theorem Runs.exists_pipeline {earlier later : List Binding} {binding : Binding}
    (h : Runs engine (earlier ++ binding :: later) env last)
    (hdistinct : binding.name ∉ later.map Binding.name) :
    ∃ before rows out, before binding.source = some rows ∧
      Pipeline engine before binding.steps rows out ∧ last binding.name = some out ∧
      ∀ name ∉ (binding :: later).map Binding.name, last name = before name := by
  induction earlier generalizing env with
  | nil =>
    obtain _ | ⟨hnamed, hcomputes, hrest⟩ := h
    refine ⟨env, _, _, hnamed, hcomputes, ?_, fun name hname => ?_⟩
    · rw [hrest.eq_of_not_mem hdistinct, Function.update_self]
    · rw [List.map_cons, List.mem_cons, not_or] at hname
      rw [hrest.eq_of_not_mem hname.2, Function.update_of_ne hname.1]
  | cons first earlier ih =>
    obtain _ | ⟨_, _, hrest⟩ := h
    exact ih hrest

end Runs

end KustoSearch.Relational
