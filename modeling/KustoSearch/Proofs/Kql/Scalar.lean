import KustoSearch.Proofs.Calendar.Timeline
import KustoSearch.Proofs.Kql.Literal

/-! # Scalar expressions

How the engine reads an expression for a point in time, a span or a number, and what it computes.
Brackets and calls bind closest, then a minus sign before an operand, then remainders, then
differences; what binds alike goes from left to right. `Scalar.evaluate?` reads a text in this way
and computes it. Timespans are exact, and dates have no bounds: nothing overflows.

`ComesTo` says that a text has a value wherever it stands, so that the value of a text follows from
those of its parts.
-/

namespace KustoSearch.Kql

open Calendar

/-- A scalar expression. -/
inductive Scalar where
  | number (numeral : String)
  | text (value : String)
  | column (name : String)
  | call (function : String) (arguments : List Scalar)
  | negative (part : Scalar)
  | minus (left right : Scalar)
  | remainder (left right : Scalar)

namespace Scalar

/-! ## Reading -/

/-- What an open bracket ends with so far. -/
inductive Place where
  /-- Nothing has been read. -/
  | empty
  /-- A comma or an operator; an operand must follow. -/
  | wanting
  /-- A bare word; the bracket of its arguments must follow. -/
  | word (function : String)
  /-- A product. -/
  | product (e : Scalar)

/-- Whether an operand may stand at a place. -/
def Place.isOpen : Place → Bool
  | .empty => true
  | .wanting => true
  | .word _ => false
  | .product _ => false

/-- A bracket that has not been closed. -/
structure Bracket where
  /-- The word directly before the bracket. -/
  function : Option String
  /-- The expressions before the last comma, last first. -/
  arguments : List Scalar
  /-- What the product at the end belongs to. -/
  sum : Scalar → Scalar
  /-- What the next operand belongs to. -/
  factor : Scalar → Scalar
  place : Place

namespace Bracket

/-- A bracket in which nothing has been read. -/
def opened (function : Option String) : Bracket := ⟨function, [], id, id, .empty⟩

/-- The bracket with an operand at its end, where one may stand. -/
def operand? (b : Bracket) (e : Scalar) : Option Bracket :=
  if b.place.isOpen then some { b with factor := id, place := .product (b.factor e) } else none

/-- The bracket with an operator at its end, where it may stand. -/
def operator? (b : Bracket) (mark : String) : Option Bracket :=
  match b.place with
  | .product e =>
    if mark = "-" then some { b with sum := .minus (b.sum e), place := .wanting }
    else if mark = "%" then some { b with factor := .remainder e, place := .wanting }
    else none
  | .word _ => none
  | _ =>
    if mark = "-" then
      some { b with factor := fun e => b.factor (.negative e), place := .wanting }
    else none

/-- The expression of a bracket that closes. Only the arguments of a call may be none or several. -/
def closed? (b : Bracket) : Option Scalar :=
  match b.function, b.arguments, b.place with
  | some f, [], .empty => some (.call f [])
  | some f, arguments, .product e => some (.call f (b.sum e :: arguments).reverse)
  | none, [], .product e => some (b.sum e)
  | _, _, _ => none

end Bracket

/-- Reads one token; the innermost open bracket comes first. -/
def step : List Bracket → Token → Option (List Bracket)
  | [], _ => none
  | b :: outer, .number numeral => (b.operand? (.number numeral)).map (· :: outer)
  | b :: outer, .text value => (b.operand? (.text value)).map (· :: outer)
  | b :: outer, .column name => (b.operand? (.column name)).map (· :: outer)
  | b :: outer, .name word =>
    if b.place.isOpen then some ({ b with place := .word word } :: outer) else none
  | b :: outer, .mark mark => (b.operator? mark).map (· :: outer)
  | b :: outer, .opening =>
    match b.place with
    | .product _ => none
    | .word f => some (.opened (some f) :: { b with place := .wanting } :: outer)
    | _ => some (.opened none :: b :: outer)
  | b :: outer, .comma =>
    match b.place with
    | .product e => some (⟨b.function, b.sum e :: b.arguments, id, id, .wanting⟩ :: outer)
    | _ => none
  | [_], .closing => none
  | b :: parent :: outer, .closing => do
    let e ← b.closed?
    let parent ← parent.operand? e
    some (parent :: outer)

/-- Reads tokens one after another. -/
def run (ts : List Token) (brackets : List Bracket) : Option (List Bracket) :=
  ts.foldlM step brackets

/-- The expression that a text is. -/
def read? (text : String) : Option Scalar := do
  let ts ← tokens? text.toList
  match ← run ts [.opened none] with
  | [b] => b.closed?
  | _ => none

end Scalar

/-! ## Computing -/

/-- What a scalar expression comes to. -/
inductive Quantity where
  | number (n : Int)
  | text (s : String)
  /-- A timespan in nanoseconds. -/
  | span (nanos : Int)
  /-- A point in time. -/
  | point (x : Int)
deriving DecidableEq, Repr

namespace Quantity

/-- A numeral: a whole number, or a timespan when a unit stands behind the digits. -/
def ofNumeral? (cs : List Char) : Option Quantity := do
  let n ← Text.natural? (cs.takeWhile Text.isDigit)
  let unit := cs.dropWhile Text.isDigit
  if unit.isEmpty then some (.number n)
  else
    (SpanUnit.all.find? fun u => u.mark.toList = unit).map fun u =>
      .span (n * u.millis * 1000000)

/-- The same with the other sign. -/
def negative? : Quantity → Option Quantity
  | .number n => some (.number (-n))
  | .span d => some (.span (-d))
  | _ => none

/-- The difference. -/
def minus? : Quantity → Quantity → Option Quantity
  | .number a, .number b => some (.number (a - b))
  | .span a, .span b => some (.span (a - b))
  | .point x, .span d => some (.point (x - d))
  | .point x, .point y => some (.span (x - y))
  | _, _ => none

/-- The remainder of a division of whole numbers towards zero. -/
def remainder? : Quantity → Quantity → Option Quantity
  | .number a, .number b => if b = 0 then none else some (.number (a.tmod b))
  | _, _ => none

end Quantity

namespace DateUnit

/-- All units. -/
def all : List DateUnit := [.year, .month, .week, .day, .hour, .minute, .second]

/-- The unit of a name. -/
def ofName? (name : String) : Option DateUnit := all.find? fun u => u.name = name

/-- The length of a unit in nanoseconds, when all are of one length. -/
def nanos? : DateUnit → Option Int
  | .year => none
  | .month => none
  | .week => some (7 * dayNanos)
  | .day => some dayNanos
  | .hour => some 3600000000000
  | .minute => some 60000000000
  | .second => some 1000000000

/-- A number of units later. Years and months keep the day of the month where the month has it. -/
def plus (unit : DateUnit) (count x : Int) : Int :=
  match unit with
  | .year => Timeline.plusMonths (12 * count) x
  | .month => Timeline.plusMonths count x
  | unit => x + count * unit.nanos?.getD 0

end DateUnit

/-- What an expression is computed from. -/
structure Context where
  /-- The present time. -/
  now : Int
  /-- The values of the columns of a row. -/
  column : String → Option Quantity
  /-- The point in time that a value which is none stands for. -/
  date : Quantity → Option Int

/-- The point in time that a value is or stands for. -/
def Context.point? (context : Context) : Quantity → Option Int
  | .point x => some x
  | q => context.date q

/-- What a function gives. -/
def Context.call? (context : Context) (function : String) (arguments : List Quantity) :
    Option Quantity :=
  match function, arguments with
  | "now", [] => some (.point context.now)
  | "now", [.span d] => some (.point (context.now + d))
  | "ago", [.span d] => some (.point (context.now - d))
  | "todatetime", [q] => (context.point? q).map .point
  | "startofyear", [.point x] => some (.point (Timeline.startOfYear x))
  | "startofmonth", [.point x] => some (.point (Timeline.startOfMonth x))
  | "startofday", [.point x] => some (.point (Timeline.startOfDay x))
  | "getmonth", [.point x] => some (.number (Timeline.date x).month)
  | "datetime_add", [.text name, .number n, .point x] =>
    (DateUnit.ofName? name).map fun unit => .point (unit.plus n x)
  | "bin", [.point x, .span d] => if 0 < d then some (.point (Timeline.bin d x)) else none
  | _, _ => none

namespace Scalar

mutual

/-- What an expression comes to. -/
def value? (context : Context) : Scalar → Option Quantity
  | .number numeral => Quantity.ofNumeral? numeral.toList
  | .text s => some (.text s)
  | .column name => context.column name
  | .call function arguments => (values? context arguments).bind (context.call? function)
  | .negative e => (value? context e).bind Quantity.negative?
  | .minus left right =>
    match value? context left, value? context right with
    | some a, some b => a.minus? b
    | _, _ => none
  | .remainder left right =>
    match value? context left, value? context right with
    | some a, some b => a.remainder? b
    | _, _ => none

/-- What the expressions of a list come to. -/
def values? (context : Context) : List Scalar → Option (List Quantity)
  | [] => some []
  | e :: es =>
    match value? context e, values? context es with
    | some q, some qs => some (q :: qs)
    | _, _ => none

end

/-- What a text comes to. -/
def evaluate? (context : Context) (text : String) : Option Quantity :=
  (read? text).bind (value? context)

/-! ## Tokens at the levels of precedence -/

theorem run_append (ts us : List Token) (brackets : List Bracket) :
    run (ts ++ us) brackets = (run ts brackets).bind (run us) :=
  List.foldlM_append

theorem run_cons (t : Token) (ts : List Token) (brackets : List Bracket) :
    run (t :: ts) brackets = (step brackets t).bind (run ts) :=
  List.foldlM_cons

theorem run_nil (brackets : List Bracket) : run [] brackets = some brackets := rfl

/-- Tokens that are an operand wherever one may stand. -/
def IsOperand (ts : List Token) (e : Scalar) : Prop :=
  ∀ (b : Bracket) (outer : List Bracket), b.place.isOpen = true →
    run ts (b :: outer) = some ({ b with factor := id, place := .product (b.factor e) } :: outer)

/-- Tokens that are a sum where an expression begins. -/
def IsSum (ts : List Token) (e : Scalar) : Prop :=
  ∀ function arguments (place : Place) (outer : List Bracket), place.isOpen = true →
    ∃ sum last, sum last = e ∧ run ts (⟨function, arguments, id, id, place⟩ :: outer) =
      some (⟨function, arguments, sum, id, .product last⟩ :: outer)

/-- Tokens that are the arguments of a call. -/
def AreArguments (ts : List Token) (es : List Scalar) : Prop :=
  ∀ function arguments (place : Place) (outer : List Bracket), place.isOpen = true →
    ∃ b : Bracket, run ts (⟨some function, arguments, id, id, place⟩ :: outer) =
        some (b :: outer) ∧
      b.closed? = some (.call function (arguments.reverse ++ es))

theorem IsOperand.isSum {ts : List Token} {e : Scalar} (h : IsOperand ts e) : IsSum ts e :=
  fun _ _ _ outer hplace => ⟨id, e, rfl, h _ outer hplace⟩

theorem isOperand_number (numeral : String) : IsOperand [.number numeral] (.number numeral) := by
  intro b outer hplace
  simp [run_cons, run_nil, step, Bracket.operand?, hplace]

theorem isOperand_text (value : String) : IsOperand [.text value] (.text value) := by
  intro b outer hplace
  simp [run_cons, run_nil, step, Bracket.operand?, hplace]

theorem isOperand_column (name : String) : IsOperand [.column name] (.column name) := by
  intro b outer hplace
  simp [run_cons, run_nil, step, Bracket.operand?, hplace]

theorem step_sign {b : Bracket} (outer : List Bracket) (h : b.place.isOpen = true) :
    step (b :: outer) (.mark "-") =
      some ({ b with factor := fun e => b.factor (.negative e), place := .wanting } :: outer) := by
  obtain ⟨function, arguments, sum, factor, place⟩ := b
  cases place with
  | empty => rfl
  | wanting => rfl
  | word _ => cases h
  | product _ => cases h

theorem step_opening {b : Bracket} (outer : List Bracket) (h : b.place.isOpen = true) :
    step (b :: outer) .opening = some (.opened none :: b :: outer) := by
  obtain ⟨function, arguments, sum, factor, place⟩ := b
  cases place with
  | empty => rfl
  | wanting => rfl
  | word _ => cases h
  | product _ => cases h

theorem step_name {b : Bracket} (outer : List Bracket) (h : b.place.isOpen = true)
    (word : String) :
    step (b :: outer) (.name word) = some ({ b with place := .word word } :: outer) :=
  if_pos h

theorem step_closing {b parent : Bracket} (outer : List Bracket) {e : Scalar}
    (hb : b.closed? = some e) (hparent : parent.place.isOpen = true) :
    step (b :: parent :: outer) .closing =
      some ({ parent with factor := id, place := .product (parent.factor e) } :: outer) := by
  simp [step, hb, Bracket.operand?, hparent]

/-- A minus sign before an operand. -/
theorem IsOperand.negative {ts : List Token} {e : Scalar} (h : IsOperand ts e) :
    IsOperand (.mark "-" :: ts) (.negative e) := by
  intro b outer hplace
  rw [run_cons, step_sign outer hplace, Option.bind_some, h _ outer rfl]

/-- An operand taken from a sum. -/
theorem IsSum.minus {ts us : List Token} {e p : Scalar} (h : IsSum ts e) (hp : IsOperand us p) :
    IsSum (ts ++ .mark "-" :: us) (.minus e p) := by
  intro function arguments place outer hplace
  obtain ⟨sum, last, rfl, hrun⟩ := h function arguments place outer hplace
  refine ⟨.minus (sum last), p, rfl, ?_⟩
  rw [run_append, hrun, Option.bind_some, run_cons]
  exact hp _ outer rfl

/-- The remainder of two operands. -/
theorem IsOperand.remainder {ts us : List Token} {e p : Scalar} (h : IsOperand ts e)
    (hp : IsOperand us p) : IsSum (ts ++ .mark "%" :: us) (.remainder e p) := by
  intro function arguments place outer hplace
  refine ⟨id, .remainder e p, rfl, ?_⟩
  rw [run_append, h _ outer hplace, Option.bind_some, run_cons]
  exact hp _ outer rfl

/-- Brackets around a sum. -/
theorem IsSum.group {ts : List Token} {e : Scalar} (h : IsSum ts e) :
    IsOperand (.opening :: (ts ++ [.closing])) e := by
  intro b outer hplace
  obtain ⟨sum, last, rfl, hrun⟩ := h none [] .empty (b :: outer) rfl
  rw [run_cons, step_opening outer hplace, Option.bind_some, run_append, Bracket.opened, hrun,
    Option.bind_some, run_cons, step_closing outer rfl hplace]
  rfl

/-- A call is a word and the bracket of its arguments. -/
theorem AreArguments.call {ts : List Token} {es : List Scalar} (h : AreArguments ts es)
    (function : String) :
    IsOperand (.name function :: .opening :: (ts ++ [.closing])) (.call function es) := by
  intro b outer hplace
  obtain ⟨c, hrun, hclosed⟩ := h function [] .empty ({ b with place := .wanting } :: outer) rfl
  rw [run_cons, step_name outer hplace, Option.bind_some, run_cons, step, Option.bind_some,
    run_append, Bracket.opened, hrun, Option.bind_some, run_cons, step_closing outer hclosed rfl]
  rfl

/-- A call without arguments. -/
theorem isOperand_call_nil (function : String) :
    IsOperand [.name function, .opening, .closing] (.call function []) := by
  intro b outer hplace
  rw [run_cons, step_name outer hplace, Option.bind_some, run_cons, step, Option.bind_some,
    run_cons, step_closing outer rfl rfl]
  rfl

theorem IsSum.argument {ts : List Token} {e : Scalar} (h : IsSum ts e) : AreArguments ts [e] := by
  intro function arguments place outer hplace
  obtain ⟨sum, last, rfl, hrun⟩ := h (some function) arguments place outer hplace
  refine ⟨_, hrun, ?_⟩
  cases arguments <;> simp [Bracket.closed?]

theorem IsSum.arguments {ts us : List Token} {e : Scalar} {es : List Scalar} (h : IsSum ts e)
    (hes : AreArguments us es) : AreArguments (ts ++ .comma :: us) (e :: es) := by
  intro function arguments place outer hplace
  obtain ⟨sum, last, rfl, hrun⟩ := h (some function) arguments place outer hplace
  obtain ⟨b, hrest, hclosed⟩ := hes function (sum last :: arguments) .wanting outer rfl
  refine ⟨b, ?_, by simpa using hclosed⟩
  rw [run_append, hrun, Option.bind_some, run_cons]
  exact hrest

/-! ## Texts with a value -/

variable {context : Context}

/-- Whether a text comes to a value wherever an operand may stand. -/
def IsWorth (context : Context) (s : String) (q : Quantity) : Prop :=
  ∃ ts e, Scans s.toList ts ∧ IsOperand ts e ∧ value? context e = some q

/-- Whether a text comes to a value wherever an expression may stand. -/
def ComesTo (context : Context) (s : String) (q : Quantity) : Prop :=
  ∃ ts e, Scans s.toList ts ∧ IsSum ts e ∧ value? context e = some q

/-- Whether a text is the arguments of a call and comes to their values. -/
def ListComesTo (context : Context) (s : String) (qs : List Quantity) : Prop :=
  ∃ ts es, Scans s.toList ts ∧ AreArguments ts es ∧ values? context es = some qs

theorem ComesTo.evaluate?_eq {s : String} {q : Quantity} (h : ComesTo context s q) :
    evaluate? context s = some q := by
  obtain ⟨ts, e, hscan, hsum, hvalue⟩ := h
  have htokens : tokens? s.toList = some ts := by
    have h := hscan [] atEnd_nil
    have hnil : tokens? [] = some [] := by rw [tokens?]
    rw [List.append_nil, hnil] at h
    simpa using h
  obtain ⟨sum, last, rfl, hrun⟩ := hsum none [] .empty [] rfl
  have hread : read? s = some (sum last) := by
    unfold read?
    rw [htokens]
    simp [Bracket.opened, hrun, Bracket.closed?]
  rw [evaluate?, hread, Option.bind_some, hvalue]

theorem IsWorth.comesTo {s : String} {q : Quantity} (h : IsWorth context s q) :
    ComesTo context s q := by
  obtain ⟨ts, e, hscan, he, hvalue⟩ := h
  exact ⟨ts, e, hscan, he.isSum, hvalue⟩

theorem ComesTo.argument {s : String} {q : Quantity} (h : ComesTo context s q) :
    ListComesTo context s [q] := by
  obtain ⟨ts, e, hscan, he, hvalue⟩ := h
  exact ⟨ts, [e], hscan, he.argument, by simp [values?, hvalue]⟩

theorem ComesTo.arguments {s t : String} {q : Quantity} {qs : List Quantity}
    (h : ComesTo context s q) (hqs : ListComesTo context t qs) :
    ListComesTo context (s ++ ", " ++ t) (q :: qs) := by
  obtain ⟨ts, e, hscan, he, hvalue⟩ := h
  obtain ⟨us, es, hscans, hes, hvalues⟩ := hqs
  refine ⟨ts ++ .comma :: us, e :: es, ?_, he.arguments hes, by simp [values?, hvalue, hvalues]⟩
  have htext : (s ++ ", " ++ t).toList = s.toList ++ ',' :: ' ' :: t.toList := by simp
  rw [htext]
  exact hscan.append hscans.blank.comma fun _ _ => atEnd_comma _

/-- A bare word is one token. -/
theorem scans_word (word : String) (h : isWord word.toList = true) :
    Scans word.toList [.name word] := by
  cases hword : word.toList with
  | nil =>
    rw [hword] at h
    exact absurd h (by decide)
  | cons c cs =>
    have hback : word = String.ofList (c :: cs) := by rw [← hword, String.ofList_toList]
    rw [hword] at h
    simp only [isWord, Bool.and_eq_true, Bool.not_eq_true', List.all_eq_true] at h
    rw [hback]
    exact scans_name h.1.1 h.1.2 h.2

/-- A call whose function gives a value for those of the arguments. -/
theorem ListComesTo.call {s : String} {qs : List Quantity} {q : Quantity}
    (h : ListComesTo context s qs) (opening function : String)
    (hopening : opening.toList = function.toList ++ ['(']) (hword : isWord function.toList = true)
    (hcall : context.call? function qs = some q) : IsWorth context (opening ++ s ++ ")") q := by
  obtain ⟨ts, es, hscan, hes, hvalues⟩ := h
  refine ⟨_, _, ?_, hes.call function, by simp [value?, hvalues, hcall]⟩
  have htext : (opening ++ s ++ ")").toList =
      function.toList ++ '(' :: (s.toList ++ [')']) := by simp [hopening]
  rw [htext]
  exact (scans_word function hword).append hscan.group fun _ _ => atEnd_opening _

theorem isWorth_now : IsWorth context "now()" (.point context.now) := by
  have htext : "now()".toList = "now".toList ++ '(' :: [')'] := by decide
  refine ⟨_, _, ?_, isOperand_call_nil "now", by simp [value?, values?, Context.call?]⟩
  rw [htext]
  exact (scans_word "now" (by decide)).append scans_nil.closing.opening fun _ _ => atEnd_opening _

/-- Brackets around an expression. -/
theorem ComesTo.group {s : String} {q : Quantity} (h : ComesTo context s q) :
    IsWorth context ("(" ++ s ++ ")") q := by
  obtain ⟨ts, e, hscan, he, hvalue⟩ := h
  have htext : ("(" ++ s ++ ")").toList = '(' :: (s.toList ++ [')']) := by simp
  refine ⟨_, e, ?_, he.group, hvalue⟩
  rw [htext]
  exact hscan.group

/-- An operator between blanks. -/
theorem scans_between {s t : String} {ts us : List Token} {c : Char}
    (hc : Lexer.isSignChar c = true) (hs : Scans s.toList ts) (ht : Scans t.toList us) :
    Scans (s.toList ++ ' ' :: c :: ' ' :: t.toList)
      (ts ++ .mark (String.ofList [c]) :: us) :=
  hs.append (ht.blank.sign hc).blank fun _ _ => atEnd_blank _

theorem ComesTo.minus {s t : String} {p q r : Quantity} (h : ComesTo context s p)
    (ht : IsWorth context t q) (hr : p.minus? q = some r) :
    ComesTo context (s ++ " - " ++ t) r := by
  obtain ⟨ts, e, hscan, he, hvalue⟩ := h
  obtain ⟨us, e', hscan', he', hvalue'⟩ := ht
  have htext : (s ++ " - " ++ t).toList = s.toList ++ ' ' :: '-' :: ' ' :: t.toList := by simp
  refine ⟨_, _, ?_, he.minus he', by simp [value?, hvalue, hvalue', hr]⟩
  rw [htext]
  exact scans_between (by decide) hscan hscan'

theorem IsWorth.remainder {s t : String} {p q r : Quantity} (h : IsWorth context s p)
    (ht : IsWorth context t q) (hr : p.remainder? q = some r) :
    ComesTo context (s ++ " % " ++ t) r := by
  obtain ⟨ts, e, hscan, he, hvalue⟩ := h
  obtain ⟨us, e', hscan', he', hvalue'⟩ := ht
  have htext : (s ++ " % " ++ t).toList = s.toList ++ ' ' :: '%' :: ' ' :: t.toList := by simp
  refine ⟨_, _, ?_, he.remainder he', by simp [value?, hvalue, hvalue', hr]⟩
  rw [htext]
  exact scans_between (by decide) hscan hscan'

theorem IsWorth.negative {s : String} {q r : Quantity} (h : IsWorth context s q)
    (hr : q.negative? = some r) : IsWorth context ("-" ++ s) r := by
  obtain ⟨ts, e, hscan, he, hvalue⟩ := h
  refine ⟨_, _, ?_, he.negative, by simp [value?, hvalue, hr]⟩
  rw [String.toList_append]
  exact hscan.sign (by decide)

/-! ## Numerals and names -/

theorem ofNumeral?_decimal (n : Nat) :
    Quantity.ofNumeral? (Text.decimal n) = some (.number n) := by
  obtain ⟨htake, hdrop⟩ := Text.takeWhile_append_of_head (r := [])
    (Text.isDigits_decimal n).2 (by simp)
  rw [List.append_nil] at htake hdrop
  simp [Quantity.ofNumeral?, htake, hdrop]

theorem ofNumeral?_decimal_mark (n : Nat) (unit : SpanUnit) :
    Quantity.ofNumeral? (Text.decimal n ++ unit.mark.toList) =
      some (.span (n * unit.millis * 1000000)) := by
  have hhead : ∀ c ∈ unit.mark.toList.head?, Text.isDigit c = false :=
    fun c hc => (unit.mark_chars c (List.mem_of_mem_head? hc)).2.1
  obtain ⟨htake, hdrop⟩ := Text.takeWhile_append_of_head (Text.isDigits_decimal n).2 hhead
  simp only [Quantity.ofNumeral?, htake, hdrop, Text.natural?_decimal]
  cases unit <;> rfl

/-- A numeral has the value of its characters. -/
theorem isWorth_numeral {cs : List Char} {q : Quantity} (h : IsNumeral cs)
    (hq : Quantity.ofNumeral? cs = some q) : IsWorth context (String.ofList cs) q := by
  refine ⟨_, _, ?_, isOperand_number (String.ofList cs), ?_⟩
  · rw [String.toList_ofList]
    exact h.scans
  · rw [value?, String.toList_ofList, hq]

theorem isWorth_natural (n : Nat) : IsWorth context (Text.naturalText n) (.number n) := by
  have hnumeral : IsNumeral (Text.decimal n) := by
    simpa using isNumeral_decimal n [] (by simp)
  exact isWorth_numeral hnumeral (ofNumeral?_decimal n)

theorem isWorth_integer (n : Int) : IsWorth context (Text.integerText n) (.number n) := by
  have hworth : IsWorth context (Text.naturalText n.natAbs) (.number n.natAbs) :=
    isWorth_natural n.natAbs
  rw [Text.integerText]
  split_ifs with hneg
  · refine hworth.negative ?_
    rw [Quantity.negative?, Option.some.injEq, Quantity.number.injEq]
    omega
  · rwa [Int.natAbs_of_nonneg (Int.not_lt.mp hneg)] at hworth

theorem isWorth_span (s : Span) : IsWorth context s.text (.span (s.millis * 1000000)) := by
  have hworth : IsWorth context
      (String.ofList (Text.decimal s.count.natAbs ++ s.unit.mark.toList))
      (.span (s.count.natAbs * s.unit.millis * 1000000)) :=
    isWorth_numeral (isNumeral_decimal s.count.natAbs _ s.unit.mark_chars)
      (ofNumeral?_decimal_mark _ _)
  have htext : String.ofList (Text.decimal s.count.natAbs ++ s.unit.mark.toList) =
      Text.naturalText s.count.natAbs ++ s.unit.mark := by
    rw [← String.toList_inj]
    simp
  rw [htext] at hworth
  rw [Span.text, Text.integerText, Span.millis]
  split_ifs with hneg
  · have hcount : -(s.count.natAbs : Int) = s.count := by omega
    rw [String.append_assoc]
    refine hworth.negative ?_
    rw [Quantity.negative?, ← Int.neg_mul, ← Int.neg_mul, hcount]
  · rwa [Int.natAbs_of_nonneg (Int.not_lt.mp hneg)] at hworth

theorem isWorth_unit (unit : DateUnit) :
    IsWorth context ("'" ++ unit.name ++ "'") (.text unit.name) := by
  refine ⟨_, _, ?_, isOperand_text unit.name, rfl⟩
  have htext : ("'" ++ unit.name ++ "'").toList = '\'' :: (unit.name.toList ++ ['\'']) := by simp
  have hscan := scans_plainText unit.name_chars
  rw [String.ofList_toList] at hscan
  rwa [htext]

theorem isWorth_textLiteral (s : String) : IsWorth context (textLiteral s) (.text s) :=
  ⟨_, _, scans_textLiteral s, isOperand_text s, rfl⟩

theorem isWorth_identifier {name : String} {q : Quantity} (h : context.column name = some q) :
    IsWorth context (identifier name) q :=
  ⟨_, _, scans_identifier name, isOperand_column name, h⟩

end Scalar

end KustoSearch.Kql
