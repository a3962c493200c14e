import KustoSearch.Calendar.Reader
import KustoSearch.Kql.Moment
import KustoSearch.Text.Join

/-! # Date math

Relative dates such as `now-1d/d` or `2024-01-01||+1M`: an anchor and steps that shift it or round
it. `DateMath.read` reads one and `DateMath.moment` gives the expression for it, where steps apply
from left to right.
-/

namespace KustoSearch

open Kql (DateUnit Moment Span)

namespace DateMath

/-- One step of date math. -/
inductive Step where
  /-- A shift by a number of units. -/
  | shift (count : Int) (unit : DateUnit)
  /-- Rounding to a unit. -/
  | round (unit : DateUnit)
deriving DecidableEq, Repr

/-- What the steps start from. -/
inductive Anchor where
  | now
  | date (text : String)
deriving DecidableEq, Repr

/-- Why a text that begins like date math is none. -/
inductive Problem where
  | anchor (text : String)
  | expression (text : String)
  | shift (count : Int) (unit : DateUnit) (text : String)
deriving DecidableEq, Repr

/-- The wording of a problem. -/
def Problem.message : Problem → String
  | .anchor text => "invalid date math anchor [" ++ text ++ "]"
  | .expression text => "invalid date math expression [" ++ text ++ "]"
  | .shift count unit text =>
    "date math shift [" ++ Text.integerText count ++ unit.name ++ "] in [" ++ text ++
      "] is out of range"

/-- The unit of a letter. -/
def unit? (c : Char) : Option DateUnit :=
  match c with
  | 'y' => some .year
  | 'M' => some .month
  | 'w' => some .week
  | 'd' => some .day
  | 'h' => some .hour
  | 'H' => some .hour
  | 'm' => some .minute
  | 's' => some .second
  | _ => none

/-- The largest shift in a unit: dates span ten thousand years, and a timespan holds at most
10 675 199 days. -/
def maxCount : DateUnit → Nat
  | .year => 10000
  | .month => 120000
  | .week => 1525028
  | .day => 10675199
  | .hour => 256204778
  | .minute => 15372286728
  | .second => 922337203685

/-- An optional run of digits that fits 63 bits; no digits mean one. -/
def count? (digits : List Char) : Option Nat :=
  if digits.isEmpty then some 1 else (Text.natural? digits).filter (· < Nat.pow 2 63)

/-- The rest of a text after its leading digits is no longer than the text. -/
theorem length_dropWhile_le (p : Char → Bool) (cs : List Char) :
    (cs.dropWhile p).length ≤ cs.length := by
  induction cs with
  | nil => simp
  | cons c cs ih =>
    by_cases h : p c
    · simp [h]; omega
    · simp [h]

/-- The steps of date math, from the anchor to the end of the text. -/
def steps? : List Char → Option (List Step)
  | [] => some []
  | c :: rest =>
    if c = '+' || c = '-' then
      let digits := rest.takeWhile Text.isDigit
      match _h : rest.dropWhile Text.isDigit with
      | [] => none
      | letter :: tail =>
        match count? digits, unit? letter, steps? tail with
        | some n, some unit, some steps =>
          some (.shift (if c = '-' then -(n : Int) else n) unit :: steps)
        | _, _, _ => none
    else if c = '/' then
      match rest with
      | [] => none
      | letter :: tail =>
        match unit? letter, steps? tail with
        | some unit, some steps => some (.round unit :: steps)
        | _, _ => none
    else none
termination_by cs => cs.length
decreasing_by
  · have h := length_dropWhile_le Text.isDigit rest
    rw [_h] at h
    simp only [List.length_cons] at h ⊢
    omega
  · simp only [List.length_cons]
    omega

/-- The anchor of a text and what follows it. Nothing means that the text is not date math. -/
def anchor? (cs : List Char) : Option (Except Problem (Anchor × List Char)) :=
  match Text.stripLead? ['n', 'o', 'w'] cs with
  | some rest => some (.ok (.now, rest))
  | none =>
    match Text.splitAt? ['|', '|'] cs with
    | none => none
    | some (anchor, rest) =>
      let text := String.ofList anchor
      match Calendar.date? anchor with
      | some _ => some (.ok (.date text, rest))
      | none => some (.error (.anchor text))

/-- The first shift that is too large. -/
def tooLarge? (steps : List Step) : Option (Int × DateUnit) :=
  steps.findSome? fun
    | .shift n unit => if maxCount unit < n.natAbs then some (n, unit) else none
    | .round _ => none

end DateMath

/-- An anchor and the steps from it. -/
structure DateMath where
  anchor : DateMath.Anchor
  steps : List DateMath.Step
deriving DecidableEq, Repr

namespace DateMath

/-- Reads date math; nothing means that the text is something else. -/
def read (s : String) : Except Problem (Option DateMath) :=
  let cs := Text.trim s.toList
  match anchor? cs with
  | none => .ok none
  | some (.error problem) => .error problem
  | some (.ok (anchor, rest)) =>
    match steps? rest with
    | none => .error (.expression (String.ofList cs))
    | some steps =>
      match tooLarge? steps with
      | some (n, unit) => .error (.shift n unit (String.ofList cs))
      | none => .ok (some ⟨anchor, steps⟩)

/-- The span of a number of units of fixed length. -/
def span? (count : Nat) : DateUnit → Option Span
  | .week => some ⟨count * 7, .day⟩
  | .day => some ⟨count, .day⟩
  | .hour => some ⟨count, .hour⟩
  | .minute => some ⟨count, .minute⟩
  | .second => some ⟨count, .second⟩
  | .year => none
  | .month => none

/-- Rounding down to a unit. Weeks start on Monday, like the bins of seven days. -/
def roundDown (unit : DateUnit) (base : Moment) : Moment :=
  match unit with
  | .year => .startOfYear base
  | .month => .startOfMonth base
  | .day => .startOfDay base
  | .week => .bin base ⟨7, .day⟩
  | .hour => .bin base ⟨1, .hour⟩
  | .minute => .bin base ⟨1, .minute⟩
  | .second => .bin base ⟨1, .second⟩

/-- A step applied to an expression. Rounding up gives the last millisecond of the unit. -/
def Step.apply (roundUp : Bool) (base : Moment) : Step → Moment
  | .shift count unit => .add unit count base
  | .round unit =>
    if roundUp then .justBefore (.add unit 1 (roundDown unit base)) else roundDown unit base

/-- The anchor as an expression. -/
def Anchor.moment : Anchor → Moment
  | .now => .now
  | .date text => .literal text

/-- The short form of a single shift from now by a unit of fixed length. -/
def short? (d : DateMath) : Option Moment :=
  match d.anchor, d.steps with
  | .now, [.shift count unit] =>
    if count < 0 then (span? count.natAbs unit).map .since
    else (span? count.natAbs unit).map .after
  | _, _ => none

/-- The expression of date math. -/
def moment (roundUp : Bool) (d : DateMath) : Moment :=
  match d.short? with
  | some m => m
  | none => d.steps.foldl (Step.apply roundUp) d.anchor.moment

end DateMath

end KustoSearch
