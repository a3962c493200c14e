import KustoSearch.DateMath
import KustoSearch.Proofs.Kql.Moment

/-! # What date math comes to

The units of date math are numbered in order, each one from its edge up to the edge of the next.
A step leads from a point in time to the one shifted by the amount, or to an end of the unit that
the point lies in. The expression of date math comes to where its steps lead, one after another,
and so does its short form. Main result: `moment_leads`.
-/

namespace KustoSearch

open Calendar
open Kql (Context DateUnit Moment Span)
open Kql.Scalar (ComesTo evaluate?)

/-! ## Beginnings of texts -/

theorem Text.stripLead?_eq_some {lead cs rest : List Char} (h : stripLead? lead cs = some rest) :
    cs = lead ++ rest := by
  induction lead generalizing cs with
  | nil =>
    cases h
    rfl
  | cons l lead ih =>
    cases cs with
    | nil => cases h
    | cons c cs =>
      rw [stripLead?] at h
      split_ifs at h with hc
      rw [hc, ih h, List.cons_append]

theorem Text.splitAt?_eq_some {mark cs before after : List Char}
    (h : splitAt? mark cs = some (before, after)) : cs = before ++ mark ++ after := by
  induction cs generalizing before with
  | nil =>
    rw [splitAt?] at h
    split_ifs at h with hmark
    cases h
    rw [List.isEmpty_iff.mp hmark]
    rfl
  | cons c cs ih =>
    rw [splitAt?] at h
    split at h
    · next hlead =>
      cases h
      exact stripLead?_eq_some hlead
    · obtain ⟨⟨piece, rest⟩, hrest, hpieces⟩ := Option.map_eq_some_iff.mp h
      cases hpieces
      rw [ih hrest, List.cons_append, List.cons_append]

/-! ## Units -/

namespace Kql.DateUnit

open Timeline (monthStart monthStart_bounds monthStart_le_iff monthStart_lt_iff)

/-- The point in time that a unit starts at. Weeks are counted from the one of 1970-01-05, a Monday,
months and years as in the calendar, and all others from 1970-01-01. -/
def edge (unit : DateUnit) (k : Int) : Int :=
  match unit with
  | .year => monthStart (k * 12)
  | .month => monthStart k
  | .week => (k * 7 + 4) * dayNanos
  | .day => k * dayNanos
  | .hour => k * 3600000000000
  | .minute => k * 60000000000
  | .second => k * 1000000000

/-- The number of the unit that a point in time lies in. -/
def number (unit : DateUnit) (x : Int) : Int :=
  match unit with
  | .year => (Timeline.date x).monthNumber / 12
  | .month => (Timeline.date x).monthNumber
  | .week => (x / dayNanos - 4) / 7
  | .day => x / dayNanos
  | .hour => x / 3600000000000
  | .minute => x / 60000000000
  | .second => x / 1000000000

variable {unit : DateUnit} {x : Int}

theorem edge_lt_iff {k l : Int} : unit.edge k < unit.edge l ↔ k < l := by
  cases unit with
  | year => exact monthStart_lt_iff.trans (by omega)
  | month => exact monthStart_lt_iff
  | _ =>
    simp only [edge, dayNanos]
    omega

/-- A point in time lies in the unit of its number. -/
theorem number_bounds (unit : DateUnit) (x : Int) :
    unit.edge (unit.number x) ≤ x ∧ x < unit.edge (unit.number x + 1) := by
  obtain ⟨hfirst, hlast⟩ := monthStart_bounds x
  cases unit with
  | year =>
    exact ⟨(monthStart_le_iff.mpr (by simp only [number]; omega)).trans hfirst,
      hlast.trans_le (monthStart_le_iff.mpr (by simp only [number]; omega))⟩
  | month => exact ⟨hfirst, hlast⟩
  | _ =>
    simp only [edge, number, dayNanos]
    omega

/-- A point in time lies in no other unit. -/
theorem number_eq_iff {k : Int} : unit.edge k ≤ x ∧ x < unit.edge (k + 1) ↔ k = unit.number x := by
  obtain ⟨hle, hlt⟩ := unit.number_bounds x
  constructor
  · rintro ⟨hle', hlt'⟩
    have hto := edge_lt_iff.mp (hle'.trans_lt hlt)
    have hfrom := edge_lt_iff.mp (hle.trans_lt hlt')
    omega
  · rintro rfl
    exact ⟨hle, hlt⟩

/-- A unit after the start of one the next one starts. -/
theorem plus_edge (k : Int) : unit.plus 1 (unit.edge k) = unit.edge (k + 1) := by
  cases unit with
  | year => exact (Timeline.plusMonths_monthStart _ _).trans (congrArg monthStart (by omega))
  | month => exact Timeline.plusMonths_monthStart _ _
  | _ =>
    simp only [plus, edge, nanos?, Option.getD_some, dayNanos]
    omega

end Kql.DateUnit

namespace DateMath

/-! ## Steps -/

/-- Whether a step leads from one point in time to another. Rounding leads to the start of the unit
that the point lies in, or to the last millisecond of the unit. -/
def Step.Leads (roundUp : Bool) (x y : Int) : Step → Prop
  | .shift count unit => y = unit.plus count x
  | .round unit => ∃ k, (unit.edge k ≤ x ∧ x < unit.edge (k + 1)) ∧
      y = if roundUp then unit.edge (k + 1) - 1000000 else unit.edge k

/-- Whether steps lead from one point in time to another, the first one first. -/
def Leads (roundUp : Bool) : List Step → Int → Int → Prop
  | [], x, y => y = x
  | step :: steps, x, z => ∃ y, step.Leads roundUp x y ∧ Leads roundUp steps y z

/-- Where a step leads. -/
def Step.moved (roundUp : Bool) (x : Int) : Step → Int
  | .shift count unit => unit.plus count x
  | .round unit =>
    if roundUp then unit.edge (unit.number x + 1) - 1000000 else unit.edge (unit.number x)

theorem Step.leads_iff {roundUp : Bool} {step : Step} {x y : Int} :
    step.Leads roundUp x y ↔ y = step.moved roundUp x := by
  cases step with
  | shift count unit => exact Iff.rfl
  | round unit =>
    simp only [Leads, DateUnit.number_eq_iff, exists_eq_left]
    rfl

theorem leads_iff {roundUp : Bool} {steps : List Step} {x z : Int} :
    Leads roundUp steps x z ↔ z = steps.foldl (Step.moved roundUp) x := by
  induction steps generalizing x with
  | nil => exact Iff.rfl
  | cons step steps ih =>
    simp only [Leads, Step.leads_iff, exists_eq_left, ih]
    rfl

/-! ## Expressions -/

variable {context : Context} {base : Moment} {x : Int}

/-- Weeks are the bins of seven days: the origin of bins is a Monday. -/
theorem comesTo_roundDown (unit : DateUnit) (h : ComesTo context base.text (.point x)) :
    ComesTo context (roundDown unit base).text (.point (unit.edge (unit.number x))) := by
  have hbin (span : Span) (hspan : 0 < span.millis)
      (hedge : Timeline.bin (span.millis * 1000000) x = unit.edge (unit.number x)) :
      ComesTo context (base.bin span).text (.point (unit.edge (unit.number x))) :=
    hedge ▸ (Moment.isWorth_bin h hspan).comesTo
  cases unit with
  | year =>
    have hyear := (Moment.isWorth_startOfYear h).comesTo
    rwa [Timeline.startOfYear_eq] at hyear
  | month =>
    have hmonth := (Moment.isWorth_startOfMonth h).comesTo
    rwa [Timeline.startOfMonth_eq] at hmonth
  | day =>
    have hday := (Moment.isWorth_startOfDay h).comesTo
    rwa [Timeline.startOfDay_eq] at hday
  | _ =>
    -- days since the origin and since 1970-01-05 differ by whole weeks
    refine hbin _ (by decide) ?_
    simp only [Timeline.bin, Timeline.origin_eq, Span.millis, Kql.SpanUnit.millis, DateUnit.edge,
      DateUnit.number, dayNanos]
    omega

/-- An expression that a step is applied to comes to where the step leads. -/
theorem Step.comesTo_apply (roundUp : Bool) (step : Step)
    (h : ComesTo context base.text (.point x)) :
    ComesTo context (step.apply roundUp base).text (.point (step.moved roundUp x)) := by
  cases step with
  | shift count unit => exact (Moment.isWorth_add h unit count).comesTo
  | round unit =>
    have hdown := comesTo_roundDown unit h
    cases roundUp with
    | false => exact hdown
    | true =>
      -- one unit on is the next edge, and a millisecond before it the unit ends
      have hnext := (Moment.isWorth_add hdown unit 1).comesTo
      rw [DateUnit.plus_edge] at hnext
      exact Moment.comesTo_justBefore hnext

theorem comesTo_foldl (roundUp : Bool) (steps : List Step)
    (h : ComesTo context base.text (.point x)) :
    ComesTo context (steps.foldl (Step.apply roundUp) base).text
      (.point (steps.foldl (Step.moved roundUp) x)) := by
  -- each step is the base of the next one, so both base and point vary
  induction steps generalizing base x with
  | nil => exact h
  | cons step steps ih => exact ih (step.comesTo_apply roundUp h)

/-- The point in time that an anchor is: the present, or what the text of a date is read as. -/
def Anchor.point? (context : Context) : Anchor → Option Int
  | .now => some context.now
  | .date text => context.point? (.text text)

theorem Anchor.comesTo_moment {anchor : Anchor} (h : anchor.point? context = some x) :
    ComesTo context anchor.moment.text (.point x) := by
  cases anchor with
  | now =>
    cases h
    exact Kql.Scalar.isWorth_now.comesTo
  | date text => exact (Moment.isWorth_literal h).comesTo

/-! ## Short forms -/

/-- A span of units is as long as the shift by them. -/
theorem plus_span? {count : Nat} {unit : DateUnit} {span : Span} (h : span? count unit = some span)
    (x : Int) : unit.plus count x = x + span.millis * 1000000 ∧
      unit.plus (-count) x = x - span.millis * 1000000 := by
  cases unit with
  | year => cases h
  | month => cases h
  | _ =>
    cases h
    simp only [DateUnit.plus, DateUnit.nanos?, Option.getD_some, Span.millis, Kql.SpanUnit.millis,
      dayNanos]
    omega

/-- The short form of a shift comes to where the shift leads. -/
theorem comesTo_short? {d : DateMath} {m : Moment} (h : d.short? = some m) (roundUp : Bool)
    (hx : d.anchor.point? context = some x) :
    ComesTo context m.text (.point (d.steps.foldl (Step.moved roundUp) x)) := by
  unfold short? at h
  split at h
  · next count unit hanchor hsteps =>
    rw [hanchor] at hx
    rw [hsteps]
    cases hx
    split_ifs at h with hneg
    · obtain ⟨span, hspan, rfl⟩ := Option.map_eq_some_iff.mp h
      have hcount : -(count.natAbs : Int) = count := by omega
      have hback := (plus_span? hspan context.now).2
      rw [hcount] at hback
      show ComesTo context _ (.point (unit.plus count context.now))
      rw [hback]
      exact (Moment.isWorth_since span).comesTo
    · obtain ⟨span, hspan, rfl⟩ := Option.map_eq_some_iff.mp h
      have hon := (plus_span? hspan context.now).1
      rw [Int.natAbs_of_nonneg (Int.not_lt.mp hneg)] at hon
      show ComesTo context _ (.point (unit.plus count context.now))
      rw [hon]
      exact (Moment.isWorth_after span).comesTo
  · cases h

theorem comesTo_moment (d : DateMath) (roundUp : Bool) (hx : d.anchor.point? context = some x) :
    ComesTo context (d.moment roundUp).text (.point (d.steps.foldl (Step.moved roundUp) x)) := by
  unfold moment
  split
  · next hshort => exact comesTo_short? hshort roundUp hx
  · exact comesTo_foldl roundUp d.steps (Anchor.comesTo_moment hx)

/-! ## What is read -/

/-- The steps that a text spells. The amount of a shift may be left out, which means one. -/
inductive Spells : List Char → List Step → Prop where
  | nil : Spells [] []
  | shift {sign letter : Char} {digits rest : List Char} {n : Nat} {unit : DateUnit}
      {steps : List Step} (hsign : sign = '+' ∨ sign = '-')
      (hcount : digits = [] ∧ n = 1 ∨ Text.natural? digits = some n)
      (hunit : unit? letter = some unit) (hrest : Spells rest steps) :
      Spells (sign :: (digits ++ letter :: rest))
        (.shift (if sign = '-' then -(n : Int) else n) unit :: steps)
  | round {letter : Char} {rest : List Char} {unit : DateUnit} {steps : List Step}
      (hunit : unit? letter = some unit) (hrest : Spells rest steps) :
      Spells ('/' :: letter :: rest) (.round unit :: steps)

theorem spells_of_steps? {cs : List Char} {steps : List Step} (h : steps? cs = some steps) :
    Spells cs steps := by
  fun_induction steps? generalizing steps with
  | case1 =>
    cases h
    exact .nil
  | case3 sign rest hsign digits letter tail hrest n unit steps hsteps hunit hcount =>
    -- a shift; the amount is what stands between the sign and the letter
    rename_i ih
    cases h
    rw [← List.takeWhile_append_dropWhile (p := Text.isDigit) (l := rest), hrest]
    refine .shift (by simpa using hsign) ?_ hunit (ih hsteps)
    unfold count? at hcount
    split_ifs at hcount with hempty
    · cases hcount
      exact .inl ⟨List.isEmpty_iff.mp hempty, rfl⟩
    · exact .inr (Option.filter_eq_some_iff.mp hcount).1
  | case6 letter tail unit steps hsteps hunit _ ih =>
    cases h
    exact .round hunit (ih hsteps)
  | _ => cases h

/-- The characters of an anchor. -/
def Anchor.chars : Anchor → List Char
  | .now => ['n', 'o', 'w']
  | .date text => text.toList ++ ['|', '|']

/-- What is read is an anchor, whose date has a form that is known, and steps from it. -/
theorem spells_of_read {s : String} {d : DateMath} (h : read s = .ok (some d)) :
    (∃ rest, Text.trim s.toList = d.anchor.chars ++ rest ∧ Spells rest d.steps) ∧
      ∀ text, d.anchor = .date text → ∃ t, date? text.toList = some t := by
  unfold read at h
  dsimp only at h
  split at h
  · cases h
  · cases h
  · next anchor rest hanchor =>
    split at h
    · cases h
    · next steps hsteps =>
      split at h
      · cases h
      · cases h
        have hspells := spells_of_steps? hsteps
        unfold anchor? at hanchor
        split at hanchor
        · next hnow =>
          cases hanchor
          exact ⟨⟨rest, Text.stripLead?_eq_some hnow, hspells⟩, fun _ hdate => by cases hdate⟩
        · split at hanchor
          · cases hanchor
          · next before after hsplit =>
            dsimp only at hanchor
            split at hanchor
            · next t hdate =>
              cases hanchor
              refine ⟨⟨rest, ?_, hspells⟩, ?_⟩
              · rw [Anchor.chars, String.toList_ofList]
                exact Text.splitAt?_eq_some hsplit
              · rintro _ ⟨⟩
                exact ⟨t, by rwa [String.toList_ofList]⟩
            · cases hanchor

/-- The expression of date math comes to where its steps lead from the anchor, from left to right,
whatever form it has: shifts by any amount that is let through, rounding down and up, and the short
form of a single shift from now. The steps are those that the text spells after its anchor. -/
theorem moment_leads {s : String} {d : DateMath} (h : read s = .ok (some d)) (roundUp : Bool)
    (hx : d.anchor.point? context = some x) :
    (∃ rest, Text.trim s.toList = d.anchor.chars ++ rest ∧ Spells rest d.steps) ∧
      (∀ text, d.anchor = .date text → ∃ t, date? text.toList = some t) ∧
      ∃ y, (∀ z, Leads roundUp d.steps x z ↔ z = y) ∧
        evaluate? context (d.moment roundUp).text = some (.point y) ∧
        evaluate? context (d.steps.foldl (Step.apply roundUp) d.anchor.moment).text =
          some (.point y) := by
  obtain ⟨hspells, hdate⟩ := spells_of_read h
  exact ⟨hspells, hdate, _, fun _ => leads_iff, (comesTo_moment d roundUp hx).evaluate?_eq,
    (comesTo_foldl roundUp d.steps (Anchor.comesTo_moment hx)).evaluate?_eq⟩

/-- Nothing but the present, 2024-08-17T09:30:00.25Z, a Saturday. -/
def saturday : Context := ⟨1723887000250000000, fun _ => none, fun _ => none⟩

/-- The last millisecond of the week before is the one of Sunday, 2024-08-11. -/
theorem moment_leads_lastWeek :
    read "now-1w/w" = .ok (some ⟨.now, [.shift (-1) .week, .round .week]⟩) ∧
      Anchor.now.point? saturday = some 1723887000250000000 ∧
      evaluate? saturday
        (DateMath.moment true ⟨.now, [.shift (-1) .week, .round .week]⟩).text =
          some (.point 1723420799999000000) := by
  have hread : read "now-1w/w" = .ok (some ⟨.now, [.shift (-1) .week, .round .week]⟩) := by
    have hsteps : steps? ['-', '1', 'w', '/', 'w'] = some [.shift (-1) .week, .round .week] := by
      decide +kernel
    have hlimit : tooLarge? [.shift (-1) .week, .round .week] = none := by decide
    have htrim : Text.trim "now-1w/w".toList = ['n', 'o', 'w', '-', '1', 'w', '/', 'w'] := by decide
    have hanchor : anchor? ['n', 'o', 'w', '-', '1', 'w', '/', 'w'] =
        some (.ok (.now, ['-', '1', 'w', '/', 'w'])) := by rfl
    simp only [read, htrim, hanchor, hsteps, hlimit]
  have hnow : Anchor.now.point? saturday = some 1723887000250000000 := rfl
  obtain ⟨_, _, y, hy, hengine, _⟩ := moment_leads hread true hnow
  have hleads : 1723420799999000000 = y := (hy _).mp (leads_iff.mpr (by decide))
  exact ⟨hread, hnow, hleads ▸ hengine⟩

end DateMath

end KustoSearch
