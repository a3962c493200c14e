import KustoSearch.Kql.Predicate
import KustoSearch.Proofs.Kql.Token

/-! # Expressions of a statement

How the engine reads the text of a condition, and what the condition says. Brackets and calls bind
closest, then signs, then comparisons, then `and`, then `or`. `Expression.read?` reads a text in
this way; `Expression.truth?` tells whether what was read holds, given which of the single tests
in it do.
-/

namespace KustoSearch.Kql

/-- An expression. -/
inductive Expression where
  | name (word : String)
  | number (numeral : String)
  | column (name : String)
  | text (value : String)
  /-- Any column. -/
  | star
  | call (function : String) (arguments : List Expression)
  | negative (part : Expression)
  | plus (left right : Expression)
  | minus (left right : Expression)
  | compare (comparison : Comparison) (left right : Expression)
  | oneOf (part : Expression) (list : List Expression)
  | all (parts : List Expression)
  | any (parts : List Expression)

/-- What precedence applies to: tokens, and bracketed lists that have been read. -/
inductive Item where
  | token (token : Token)
  | group (arguments : List Expression)

namespace Item

/-- The token that an item is. -/
def token? : Item → Option Token
  | .token t => some t
  | .group _ => none

/-- Whether an item is a bare word. -/
def isWord (word : String) (item : Item) : Bool := item.token? = some (.name word)

/-- Whether an item is an operator. -/
def isMark (mark : String) (item : Item) : Bool := item.token? = some (.mark mark)

/-- Whether an item is one of the signs between the parts of a sum. -/
def isSign (item : Item) : Bool := item.isMark "+" || item.isMark "-"

/-- The comparison that an operator stands for; the one on patterns has two words. -/
def comparison? (item : Item) : Option Comparison :=
  match item.token? with
  | some (.mark "==") => some .equal
  | some (.mark "=~") => some .equalIgnoringCase
  | some (.mark "<") => some .less
  | some (.mark "<=") => some .atMost
  | some (.mark ">") => some .greater
  | some (.mark ">=") => some .atLeast
  | some (.name "has") => some .hasTerm
  | some (.name "hasprefix") => some .hasTermFrom
  | some (.name "startswith_cs") => some .startsWith
  | some (.name "matches") => some .matchesRegex
  | _ => none

/-- Whether an item stands between the two sides of a comparison. -/
def isComparator (item : Item) : Bool := item.comparison?.isSome || item.isWord "in"

/-- The items before the first mark, and every mark with the items after it. -/
def pieces (isMark : Item → Bool) : List Item → List Item × List (Item × List Item)
  | [] => ([], [])
  | item :: items =>
    let (first, rest) := pieces isMark items
    if isMark item then ([], (item, first) :: rest) else (item :: first, rest)

/-- What binds closest: one token, a bracketed expression or a call. -/
def operand : List Item → Option Expression
  | [.token (.name word)] => some (.name word)
  | [.token (.number numeral)] => some (.number numeral)
  | [.token (.column name)] => some (.column name)
  | [.token (.text value)] => some (.text value)
  | [.token (.mark "*")] => some .star
  | [.group [part]] => some part
  | [.token (.name function), .group arguments] => some (.call function arguments)
  | _ => none

/-- Adds a part to a sum, or takes it away. -/
def addPiece (left : Expression) (piece : Item × List Item) : Option Expression :=
  if piece.1.isMark "+" then (operand piece.2).map (.plus left)
  else (operand piece.2).map (.minus left)

/-- The first part of a sum, which may have a sign of its own, and the pieces after it. -/
def firstPart : List Item × List (Item × List Item) →
    Option (Expression × List (Item × List Item))
  | ([], (sign, piece) :: rest) =>
    (operand piece).map fun e => (if sign.isMark "-" then .negative e else e, rest)
  | (first, rest) => (operand first).map fun e => (e, rest)

/-- Parts with signs between them, from left to right. -/
def sum (items : List Item) : Option Expression := do
  let (first, rest) ← firstPart (pieces isSign items)
  rest.foldlM addPiece first

/-- What stands behind an operator, compared with what stands before it. -/
def compared (left : Expression) (mark : Item) (right : List Item) : Option Expression :=
  match mark.comparison? with
  | none =>
    match right with
    | [.group list] => some (.oneOf left list)
    | _ => none
  | some .matchesRegex =>
    match right with
    | word :: right =>
      if word.isWord "regex" then (sum right).map (.compare .matchesRegex left) else none
    | [] => none
  | some comparison => (sum right).map (.compare comparison left)

/-- Two sides of a comparison, or a sum alone. -/
def comparison (items : List Item) : Option Expression :=
  match pieces isComparator items with
  | (first, []) => sum first
  | (first, [(mark, right)]) => (sum first).bind fun left => compared left mark right
  | _ => none

/-- The parts between the occurrences of a word, each read on its own. -/
def joined (word : String) (read : List Item → Option Expression)
    (join : List Expression → Expression) (items : List Item) : Option Expression := do
  let (first, rest) := pieces (isWord word) items
  match ← (first :: rest.map Prod.snd).mapM read with
  | [part] => some part
  | parts => some (join parts)

/-- Comparisons with `and` between them. -/
def conjunction (items : List Item) : Option Expression := joined "and" comparison .all items

/-- Conjunctions with `or` between them: a whole expression. -/
def expression (items : List Item) : Option Expression := joined "or" conjunction .any items

end Item

/-- An open bracket: the expressions before the last comma and the items after it, each last
first. -/
structure Frame where
  read : List Expression
  items : List Item

namespace Frame

/-- Nothing read yet. -/
def empty : Frame := ⟨[], []⟩

/-- The frame with one item more. -/
def push (frame : Frame) (item : Item) : Frame := { frame with items := item :: frame.items }

/-- The expressions in a bracket that closes; a bracket may be empty. -/
def close? (frame : Frame) : Option (List Expression) :=
  match frame.read, frame.items with
  | [], [] => some []
  | read, items => (Item.expression items.reverse).map fun last => (last :: read).reverse

/-- Reads tokens with some brackets open, the innermost one apart. -/
def readFrom (outer : List Frame) (frame : Frame) : List Token → Option Expression
  | [] => if outer.isEmpty && frame.read.isEmpty then Item.expression frame.items.reverse else none
  | .opening :: tokens => readFrom (frame :: outer) empty tokens
  | .closing :: tokens =>
    match outer, frame.close? with
    | parent :: outer, some arguments => readFrom outer (parent.push (.group arguments)) tokens
    | _, _ => none
  | .comma :: tokens =>
    match Item.expression frame.items.reverse with
    | some part => readFrom outer ⟨part :: frame.read, []⟩ tokens
    | none => none
  | token :: tokens => readFrom outer (frame.push (.token token)) tokens

end Frame

/-- The expression that a text is. -/
def Expression.read? (text : String) : Option Expression :=
  (tokens? text.toList).bind (Frame.readFrom [] Frame.empty)

/-! ## What a condition says -/

/-- A single test on a row. -/
inductive Test where
  /-- A column, or any one, compared with a literal. -/
  | holds (target : Target) (comparison : Comparison) (literal : Expression)
  | notEmpty (column : String)

/-- What a condition or a count of conditions comes to. -/
inductive Value where
  | truth (b : Bool)
  | number (n : Int)
deriving DecidableEq, Repr

/-- The value of a truth, when it is one. -/
def Value.truth? : Value → Option Bool
  | .truth b => some b
  | .number _ => none

/-- A comparison of numbers. -/
def Comparison.ofNumbers? (comparison : Comparison) (a b : Int) : Option Bool :=
  match comparison with
  | .equal => some (a = b)
  | .less => some (a < b)
  | .atMost => some (a ≤ b)
  | .greater => some (b < a)
  | .atLeast => some (b ≤ a)
  | _ => none

namespace Expression

/-- What a test looks at, when the expression is a column or a star. -/
def target? : Expression → Option Target
  | .column field => some (.column field)
  | .star => some .anyColumn
  | _ => none

mutual

/-- What an expression comes to, given which tests hold. -/
def value? (holds : Test → Bool) : Expression → Option Value
  | .name word =>
    if word = "true" then some (.truth true)
    else if word = "false" then some (.truth false)
    else none
  | .number numeral => (Text.natural? numeral.toList).map fun n => .number n
  | .call function arguments =>
    if function = "isnotempty" then
      match arguments with
      | [.column field] => some (.truth (holds (.notEmpty field)))
      | _ => none
    else
      match values? holds arguments with
      | some [.truth b] =>
        if function = "not" then some (.truth !b)
        else if function = "toint" then some (.number (if b then 1 else 0))
        else none
      | _ => none
  | .plus left right =>
    match value? holds left, value? holds right with
    | some (.number a), some (.number b) => some (.number (a + b))
    | _, _ => none
  | .compare comparison left right =>
    match left.target? with
    | some target => some (.truth (holds (.holds target comparison right)))
    | none =>
      match value? holds left, value? holds right with
      | some (.number a), some (.number b) => (comparison.ofNumbers? a b).map .truth
      | _, _ => none
  | .oneOf part list =>
    part.target?.map fun target => .truth (list.any fun e => holds (.holds target .equal e))
  | .all parts => do
    let truths ← (← values? holds parts).mapM Value.truth?
    some (.truth (truths.all id))
  | .any parts => do
    let truths ← (← values? holds parts).mapM Value.truth?
    some (.truth (truths.any id))
  | .column _ => none
  | .text _ => none
  | .star => none
  | .negative _ => none
  | .minus _ _ => none

/-- What the expressions of a list come to. -/
def values? (holds : Test → Bool) : List Expression → Option (List Value)
  | [] => some []
  | part :: parts =>
    match value? holds part, values? holds parts with
    | some v, some vs => some (v :: vs)
    | _, _ => none

end

/-- Whether a condition holds, given which tests do; nothing for an expression that is none. -/
def truth? (holds : Test → Bool) (e : Expression) : Option Bool :=
  (e.value? holds).bind Value.truth?

end Expression

end KustoSearch.Kql
