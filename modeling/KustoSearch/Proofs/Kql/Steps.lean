import KustoSearch.Plan.Stage
import KustoSearch.Proofs.Kql.Pieces
import KustoSearch.Proofs.Kql.Scalar

/-! # Reading a statement that binds tables

Semicolons divide a statement into clauses, and pipes divide a clause into a source and steps. A
step is read from its tokens: its first words say what it does, and commas and words outside
brackets divide what stands behind them. The expressions in a step are left as their tokens. The
first clause selects rows of a table, the clauses that begin with `let` bind other tables, and of
the clauses behind them those count that show a bound table as it is.
-/

namespace KustoSearch.Kql

/-! ## Tokens between marks -/

/-- How many brackets are open behind a token. -/
def Token.depth : Token → Nat → Nat
  | .opening, n => n + 1
  | .closing, n => n - 1
  | _, n => n

/-- The tokens between the places where a mark stands outside brackets, of which some are open. -/
def dividedFrom (mark : Token) : Nat → List Token → List (List Token)
  | _, [] => [[]]
  | n, t :: ts =>
    if t = mark ∧ n = 0 then [] :: dividedFrom mark n ts
    else (dividedFrom mark (t.depth n) ts).modifyHead (t :: ·)

/-- The tokens between the places where a mark stands outside brackets. -/
def divided (mark : Token) (ts : List Token) : List (List Token) := dividedFrom mark 0 ts

/-! ## Steps -/

/-- A step of a pipeline. Expressions are given by their tokens. -/
inductive Step where
  /-- Keeps the rows that pass a condition. -/
  | filter (condition : List Token)
  /-- Makes one row of all rows for which the keys are the same. -/
  | summarize (columns keys : List (String × List Token))
  /-- Keeps the rows whose cells in some columns occur in a table. -/
  | within (table : String) (columns : List String)
  | order (keys : List OrderKey)
  | take (n : Nat)
  /-- Numbers the rows from one in a column, again from one where another column changes. -/
  | number (column : String) (restart : List String)
  | drop (column : String)
deriving DecidableEq

/-- The tokens of the number of rows. -/
def countTokens : List Token := [.name "count", .opening, .closing]

namespace Step

/-- Reads a column with its expression. -/
def named? : List Token → Option (String × List Token)
  | .column name :: .mark "=" :: ts => some (name, ts)
  | _ => none

/-- Reads a column. -/
def column? : List Token → Option String
  | [.column name] => some name
  | _ => none

/-- Reads a sort key. -/
def orderKey? : List Token → Option OrderKey
  | [.column name, .name "asc"] => some ⟨name, false, false⟩
  | [.column name, .name "desc"] => some ⟨name, true, false⟩
  | [.column name, .name "asc", .name "nulls", .name "last"] => some ⟨name, false, true⟩
  | [.column name, .name "desc", .name "nulls", .name "last"] => some ⟨name, true, true⟩
  | _ => none

/-- Reads the condition that one of some columns changes, up to a last closing bracket. -/
def changes? : List Token → Option (List String)
  | .name "prev" :: .opening :: .column name :: .closing :: .mark "!=" :: .column other :: ts =>
    if name = other then
      match ts with
      | [.closing] => some [name]
      | .name "or" :: ts => (changes? ts).map (name :: ·)
      | _ => none
    else none
  | _ => none

/-- Reads a step behind its first word. -/
def ofWord? (word : String) (ts : List Token) : Option Step :=
  match word with
  | "where" => some (.filter ts)
  | "summarize" =>
    match divided (.name "by") ts with
    | [columns, keys] => do
      let columns ← (divided .comma columns).mapM named?
      let keys ← (divided .comma keys).mapM named?
      some (.summarize columns keys)
    | _ => none
  | "join" =>
    match ts with
    | .name "kind" :: .mark "=" :: .name "leftsemi" :: .opening :: .name table :: .closing ::
        .name "on" :: ts => ((divided .comma ts).mapM column?).map (.within table)
    | _ => none
  | "order" =>
    match ts with
    | .name "by" :: ts => ((divided .comma ts).mapM orderKey?).map .order
    | _ => none
  | "take" =>
    match ts with
    | [.number n] => (Text.natural? n.toList).map .take
    | _ => none
  | "extend" =>
    match ts with
    | .name column :: .mark "=" :: .name "row_number" :: .opening :: .number "1" :: .comma :: ts =>
      (changes? ts).map (.number column)
    | _ => none
  | "project" =>
    match ts with
    | [.mark "-", .name "away", .name column] => some (.drop column)
    | _ => none
  | _ => none

/-- Reads a step from its tokens. -/
def ofTokens? : List Token → Option Step
  | .name word :: ts => ofWord? word ts
  | _ => none

/-- Reads a step. -/
def read? (cs : List Char) : Option Step := (tokens? cs).bind ofTokens?

end Step

/-! ## Clauses -/

/-- The rows that a statement selects of a table, and the name that they are bound to. -/
structure Selection where
  name : String
  database : String
  table : String
  steps : List Step
deriving DecidableEq

/-- Reads a selection. -/
def Selection.read? (cs : List Char) : Option Selection :=
  match pieces '|' cs with
  | [] => none
  | head :: parts =>
    match (pieces '.' head).mapM tokens?, parts.mapM Step.read? with
    | some [[.name "let", .name name, .mark "=", .name "database", .opening, .text database,
        .closing], [.column table]], some steps => some ⟨name, database, table, steps⟩
    | _, _ => none

/-- A table that is computed from another one, and the name that it is bound to. -/
structure Binding where
  name : String
  source : String
  steps : List Step
deriving DecidableEq

/-- Reads a binding. -/
def Binding.read? (cs : List Char) : Option Binding :=
  match pieces '|' cs with
  | [] => none
  | head :: parts =>
    match tokens? head, parts.mapM Step.read? with
    | some [.name "let", .name name, .mark "=", .name source], some steps =>
      some ⟨name, source, steps⟩
    | _, _ => none

/-- Reads a result that shows a bound table as it is: the name of the table, and of the result. -/
def shown? (cs : List Char) : Option (String × String) :=
  match (pieces '|' cs).mapM tokens? with
  | some [[.name table], [.name "as", .name name]] => some (table, name)
  | _ => none

/-- What has more or fewer than two pieces shows no table as it is. -/
theorem shown?_eq_none {cs : List Char} (h : (pieces '|' cs).length ≠ 2) : shown? cs = none := by
  unfold shown?
  split
  next hread =>
    have hlength := length_of_mapM_eq_some hread
    exact absurd hlength.symm h
  · rfl

/-- What is read of a statement. -/
structure Statement where
  selection : Selection
  bindings : List Binding
  /-- The bound tables that are shown as they are, with the names of the results. -/
  shown : List (String × String)
deriving DecidableEq

/-- Whether a clause binds a table. -/
def isBinding (cs : List Char) : Bool := "let ".toList.isPrefixOf cs

/-- Reads a statement. -/
def Statement.read? (text : String) : Option Statement :=
  match (pieces ';' text.toList).map (List.dropWhile (· = '\n')) with
  | [] => none
  | first :: clauses => do
    let selection ← Selection.read? first
    let bindings ← (clauses.takeWhile isBinding).mapM Binding.read?
    some ⟨selection, bindings, (clauses.dropWhile isBinding).filterMap shown?⟩

/-! ## Tokens that are not divided -/

/-- Tokens that a mark does not divide, however many brackets are open before them. -/
def Undivided (mark : Token) (ts : List Token) : Prop :=
  ∀ n rest, dividedFrom mark n (ts ++ rest) = (dividedFrom mark n rest).modifyHead (ts ++ ·)

/-- Tokens that a mark does not divide where a bracket is open before them. -/
def Enclosed (mark : Token) (ts : List Token) : Prop :=
  ∀ n rest, dividedFrom mark (n + 1) (ts ++ rest) =
    (dividedFrom mark (n + 1) rest).modifyHead (ts ++ ·)

section Divided

variable {mark : Token} {ts us : List Token}

theorem dividedFrom_cons_of_ne {t : Token} (h : t ≠ mark) (n : Nat) (ts : List Token) :
    dividedFrom mark n (t :: ts) = (dividedFrom mark (t.depth n) ts).modifyHead (t :: ·) := by
  rw [dividedFrom, if_neg fun hmark => h hmark.1]

theorem dividedFrom_succ_cons (t : Token) (n : Nat) (ts : List Token) :
    dividedFrom mark (n + 1) (t :: ts) =
      (dividedFrom mark (t.depth (n + 1)) ts).modifyHead (t :: ·) := by
  rw [dividedFrom, if_neg fun hmark => Nat.succ_ne_zero n hmark.2]

theorem dividedFrom_mark (ts : List Token) :
    dividedFrom mark 0 (mark :: ts) = [] :: dividedFrom mark 0 ts := by
  rw [dividedFrom, if_pos ⟨rfl, rfl⟩]

theorem undivided_nil : Undivided mark [] := by
  intro n rest
  cases h : dividedFrom mark n rest with
  | nil => exact h
  | cons first more => exact h

theorem Undivided.append (h : Undivided mark ts) (h' : Undivided mark us) :
    Undivided mark (ts ++ us) := by
  intro n rest
  rw [List.append_assoc, h, h', List.modifyHead_modifyHead]
  simp only [Function.comp_def, List.append_assoc]

theorem Enclosed.append (h : Enclosed mark ts) (h' : Enclosed mark us) :
    Enclosed mark (ts ++ us) := by
  intro n rest
  rw [List.append_assoc, h, h', List.modifyHead_modifyHead]
  simp only [Function.comp_def, List.append_assoc]

theorem Undivided.enclosed (h : Undivided mark ts) : Enclosed mark ts := fun n => h (n + 1)

/-- A token that is no bracket. -/
theorem undivided_token {t : Token} (hne : t ≠ mark) (h : ∀ n, t.depth n = n) :
    Undivided mark [t] := by
  intro n rest
  rw [List.singleton_append, dividedFrom_cons_of_ne hne, h]
  rfl

/-- A mark itself divides nothing inside a bracket. -/
theorem enclosed_token {t : Token} (h : ∀ n, t.depth n = n) : Enclosed mark [t] := by
  intro n rest
  rw [List.singleton_append, dividedFrom_succ_cons, h]
  rfl

/-- Brackets around tokens. -/
theorem Enclosed.bracketed (h : Enclosed mark ts) (hopening : .opening ≠ mark)
    (hclosing : .closing ≠ mark) : Undivided mark (.opening :: (ts ++ [.closing])) := by
  intro n rest
  have hassoc : .opening :: (ts ++ [.closing]) ++ rest = .opening :: (ts ++ .closing :: rest) := by
    simp
  -- in between a bracket is open, and behind it as many are open as before it
  rw [hassoc, dividedFrom_cons_of_ne hopening, Token.depth, h, dividedFrom_cons_of_ne hclosing,
    Token.depth, Nat.add_sub_cancel, List.modifyHead_modifyHead, List.modifyHead_modifyHead]
  refine congrArg (List.modifyHead · _) ?_
  funext part
  simp

theorem undivided_intercalate {separator : List Token} {parts : List (List Token)}
    (hseparator : Undivided mark separator) (h : ∀ part ∈ parts, Undivided mark part) :
    Undivided mark (separator.intercalate parts) := by
  induction parts with
  | nil => exact undivided_nil
  | cons part parts ih =>
    obtain ⟨hpart, hparts⟩ := List.forall_mem_cons.mp h
    cases parts with
    | nil =>
      rw [List.intercalate_singleton]
      exact hpart
    | cons next parts =>
      rw [List.intercalate_cons_cons]
      exact (hpart.append hseparator).append (ih hparts)

/-- Tokens with marks between them are divided into those tokens. -/
theorem divided_intercalate {parts : List (List Token)} (hne : parts ≠ [])
    (h : ∀ part ∈ parts, Undivided mark part) :
    divided mark ([mark].intercalate parts) = parts := by
  induction parts with
  | nil => exact absurd rfl hne
  | cons part parts ih =>
    obtain ⟨hpart, hparts⟩ := List.forall_mem_cons.mp h
    cases parts with
    | nil =>
      have hlast := hpart 0 []
      rw [List.append_nil, dividedFrom, List.modifyHead_cons, List.append_nil] at hlast
      rw [List.intercalate_singleton]
      exact hlast
    | cons next parts =>
      -- nothing in the part ends it, so that the mark behind it does
      rw [List.intercalate_cons_cons, List.append_assoc, List.singleton_append, divided, hpart,
        dividedFrom_mark, List.modifyHead_cons, List.append_nil]
      exact congrArg (part :: ·) (ih (List.cons_ne_nil _ _) hparts)

end Divided

end KustoSearch.Kql
