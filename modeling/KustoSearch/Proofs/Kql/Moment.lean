import KustoSearch.Proofs.Kql.Scalar

/-! # What points in time come to

The value of each kind of expression for a point in time, from the value of the expression that it
is made of. The start of a quarter is written with a shift back by the remainder of the month:
`comesTo_startOfQuarter` says where that leads.
-/

namespace KustoSearch.Kql

open Calendar Scalar

namespace DateUnit

theorem ofName?_name (unit : DateUnit) : ofName? unit.name = some unit := by
  cases unit <;> decide

end DateUnit

namespace Moment

theorem text_startOfQuarter (base : Moment) :
    base.startOfQuarter.text = "datetime_add('month', -((getmonth(" ++ base.text ++
      ") - 1) % 3), startofmonth(" ++ base.text ++ "))" := rfl

section

variable {context : Context}

theorem isWorth_after (span : Span) :
    IsWorth context (Moment.after span).text (.point (context.now + span.millis * 1000000)) := by
  have hcall : context.call? "now" [.span (span.millis * 1000000)] =
      some (.point (context.now + span.millis * 1000000)) := rfl
  exact (isWorth_span span).comesTo.argument.call "now(" "now" (by decide) (by decide) hcall

theorem isWorth_since (span : Span) :
    IsWorth context (Moment.since span).text (.point (context.now - span.millis * 1000000)) :=
  (isWorth_span span).comesTo.argument.call "ago(" "ago" (by decide) (by decide) rfl

/-- A value read as a point in time. -/
theorem isWorth_todatetime {s : String} {q : Quantity} {x : Int} (h : ComesTo context s q)
    (hx : context.point? q = some x) : IsWorth context ("todatetime(" ++ s ++ ")") (.point x) := by
  have hcall : context.call? "todatetime" [q] = some (.point x) := by
    show (context.point? q).map Quantity.point = _
    rw [hx, Option.map_some]
  exact h.argument.call "todatetime(" "todatetime" (by decide) (by decide) hcall

theorem isWorth_literal {s : String} {x : Int} (h : context.point? (.text s) = some x) :
    IsWorth context (Moment.literal s).text (.point x) :=
  isWorth_todatetime (isWorth_textLiteral s).comesTo h

variable {base : Moment} {x : Int}

theorem isWorth_startOfYear (h : ComesTo context base.text (.point x)) :
    IsWorth context base.startOfYear.text (.point (Timeline.startOfYear x)) :=
  h.argument.call "startofyear(" "startofyear" (by decide) (by decide) rfl

theorem isWorth_startOfMonth (h : ComesTo context base.text (.point x)) :
    IsWorth context base.startOfMonth.text (.point (Timeline.startOfMonth x)) :=
  h.argument.call "startofmonth(" "startofmonth" (by decide) (by decide) rfl

theorem isWorth_startOfDay (h : ComesTo context base.text (.point x)) :
    IsWorth context base.startOfDay.text (.point (Timeline.startOfDay x)) :=
  h.argument.call "startofday(" "startofday" (by decide) (by decide) rfl

theorem isWorth_bin (h : ComesTo context base.text (.point x)) {span : Span}
    (hspan : 0 < span.millis) :
    IsWorth context (base.bin span).text (.point (Timeline.bin (span.millis * 1000000) x)) := by
  have hcall : context.call? "bin" [.point x, .span (span.millis * 1000000)] =
      some (.point (Timeline.bin (span.millis * 1000000) x)) := if_pos (by omega)
  have hbin := (h.arguments (isWorth_span span).comesTo.argument).call "bin(" "bin" (by decide)
    (by decide) hcall
  rwa [← String.append_assoc, ← String.append_assoc] at hbin

/-- A shift by a number of units, whatever expression the number is. -/
theorem isWorth_datetimeAdd (unit : DateUnit) {count s : String} {n : Int}
    (hn : ComesTo context count (.number n)) (h : ComesTo context s (.point x)) :
    IsWorth context ("datetime_add('" ++ unit.name ++ "', " ++ count ++ ", " ++ s ++ ")")
      (.point (unit.plus n x)) := by
  have hcall : context.call? "datetime_add" [.text unit.name, .number n, .point x] =
      some (.point (unit.plus n x)) := by
    show (DateUnit.ofName? unit.name).map (fun u => Quantity.point (u.plus n x)) = _
    rw [DateUnit.ofName?_name, Option.map_some]
  have hshift := ((isWorth_unit unit).comesTo.arguments (hn.arguments h.argument)).call
    "datetime_add(" "datetime_add" (by decide) (by decide) hcall
  have htext : "datetime_add(" ++ ("'" ++ unit.name ++ "'" ++ ", " ++ (count ++ ", " ++ s)) ++ ")" =
      "datetime_add('" ++ unit.name ++ "', " ++ count ++ ", " ++ s ++ ")" := by
    rw [← String.toList_inj]
    simp
  rwa [htext] at hshift

theorem isWorth_add (h : ComesTo context base.text (.point x)) (unit : DateUnit) (count : Int) :
    IsWorth context (base.add unit count).text (.point (unit.plus count x)) :=
  isWorth_datetimeAdd unit (isWorth_integer count).comesTo h

theorem comesTo_justBefore (h : ComesTo context base.text (.point x)) :
    ComesTo context base.justBefore.text (.point (x - 1000000)) := by
  have htext : Span.text ⟨1, .milli⟩ = "1ms" := by
    rw [Span.text, Text.integerText, if_neg (by decide), Text.naturalText,
      Text.decimal_of_lt (by decide)]
    rfl
  have hmillis : Span.millis ⟨1, .milli⟩ * 1000000 = 1000000 := by decide
  have hone : IsWorth context (Span.text ⟨1, .milli⟩)
      (.span (Span.millis ⟨1, .milli⟩ * 1000000)) := isWorth_span _
  rw [htext, hmillis] at hone
  have hbefore := h.minus hone rfl
  rwa [String.append_assoc] at hbefore

/-- The months since the last quarter began, as a shift back. -/
theorem isWorth_monthsBack {s : String} (h : ComesTo context s (.point x)) :
    IsWorth context ("-((getmonth(" ++ s ++ ") - 1) % 3)")
      (.number (-(((Timeline.date x).month : Int) - 1).tmod 3)) := by
  have hmonth : IsWorth context ("getmonth(" ++ s ++ ")") (.number (Timeline.date x).month) :=
    h.argument.call "getmonth(" "getmonth" (by decide) (by decide) rfl
  have hback := ((hmonth.comesTo.minus (isWorth_natural 1) rfl).group.remainder
    (isWorth_natural 3) rfl).group.negative rfl
  have htext : "-" ++ ("(" ++ ("(" ++ ("getmonth(" ++ s ++ ")" ++ " - " ++ Text.naturalText 1) ++
      ")" ++ " % " ++ Text.naturalText 3) ++ ")") = "-((getmonth(" ++ s ++ ") - 1) % 3)" := by
    rw [← String.toList_inj]
    simp [Text.decimal_of_lt]
    exact ⟨rfl, rfl⟩
  rwa [htext] at hback

/-- The start of a quarter is the start of the month, some months back. -/
theorem isWorth_startOfQuarter (h : ComesTo context base.text (.point x)) :
    IsWorth context base.startOfQuarter.text
      (.point (Timeline.plusMonths (-(((Timeline.date x).month : Int) - 1).tmod 3)
        (Timeline.startOfMonth x))) := by
  have hshift := isWorth_datetimeAdd .month (isWorth_monthsBack h).comesTo
    (isWorth_startOfMonth h).comesTo
  have htext : "datetime_add('" ++ DateUnit.month.name ++ "', " ++
      ("-((getmonth(" ++ base.text ++ ") - 1) % 3)") ++ ", " ++ base.startOfMonth.text ++ ")" =
        base.startOfQuarter.text := by
    rw [text_startOfMonth, text_startOfQuarter, ← String.toList_inj]
    simp [DateUnit.name]
  rwa [htext] at hshift

end

end Moment

end KustoSearch.Kql
