import KustoSearch.Calendar.Reader
import KustoSearch.Proofs.Calendar.Timeline
import KustoSearch.Proofs.Interval
import KustoSearch.Proofs.Text.Numeral
import Mathlib.Data.List.TakeWhile

/-! # Timestamps that are read back

The text of an instant between the years 1 and 9999 names every field with all of its digits, so
the reader finds each field again and with them the instant, less what lies below a millisecond:
`timestamp?_text`. The text of what is read is the same text: `text_atMillis`. Texts are long, and
the fields are read one after another; every field is a padded number with a mark behind it.
-/

namespace KustoSearch

/-! ## Padded numbers -/

namespace Text

/-- A number below a power of ten has no more digits than the power has zeros. -/
theorem length_decimal_le {n width : Nat} (hwidth : 0 < width) (h : n < 10 ^ width) :
    (decimal n).length ≤ width := by
  induction width, hwidth using Nat.le_induction generalizing n with
  | base => simp [decimal_of_lt h]
  | succ width hwidth ih =>
    by_cases hsmall : n < 10
    · simp [decimal_of_lt hsmall]
    · have htenth : n / 10 < 10 ^ width := by
        rw [Nat.pow_succ] at h
        omega
      have hshorter := ih htenth
      rw [decimal_of_ge hsmall, List.length_append, List.length_singleton]
      omega

/-- Digits of a given number: as many as asked for, and with its value. -/
structure IsField (width n : Nat) (cs : List Char) : Prop where
  length : cs.length = width
  digits : ∀ c ∈ cs, isDigit c = true
  value : digitsValue cs = n

/-- A number that has room is filled up with zeros to exactly the width. -/
theorem isField_paddedText (width n : Nat) (hwidth : 0 < width) (h : n < 10 ^ width) :
    IsField width n (paddedText width n).toList := by
  have hlength := length_decimal_le hwidth h
  have hchars : (paddedText width n).toList =
      List.replicate (width - (decimal n).length) '0' ++ decimal n := by
    simp [paddedText]
  rw [hchars]
  refine ⟨?_, ?_, ?_⟩
  · rw [List.length_append, List.length_replicate]
    omega
  · intro c hc
    rcases List.mem_append.mp hc with hzero | hdigit
    · rw [List.eq_of_mem_replicate hzero]
      rfl
    · exact isDigit_of_mem_decimal c hdigit
  · rw [digitsValue_append, digitsValue_replicate_zero, digitsValue_decimal]
    omega

end Text

namespace Calendar

open Text (IsField isField_paddedText)

/-- A field of a fixed width is read whole, and nothing behind it. -/
theorem digits?_field {width n : Nat} {cs : List Char} (hwidth : 0 < width)
    (h : IsField width n cs) (rest : List Char) :
    digits? width width (cs ++ rest) = some (n, rest) := by
  have htake : (cs ++ rest).take width = cs := by
    rw [← h.length]
    exact List.take_left
  have hrun : cs.takeWhile Text.isDigit = cs := by
    rw [List.takeWhile_eq_self_iff]
    exact h.digits
  have hne : cs.isEmpty = false := by
    rw [List.isEmpty_eq_false_iff_exists_mem]
    exact List.exists_mem_of_length_pos (by rw [h.length]; exact hwidth)
  have hdrop : (cs ++ rest).drop cs.length = rest := List.drop_left
  simp only [digits?, htake, hrun, hne, h.length, Nat.lt_irrefl, decide_false, Bool.or_self,
    Bool.false_eq_true, if_false, h.value]
  rw [← h.length, hdrop]

/-- A fraction of three digits counts milliseconds. -/
theorem nanos?_field {n : Nat} {cs : List Char} (h : IsField 3 n cs) {rest : List Char}
    (hrest : ∀ c ∈ rest.head?, Text.isDigit c = false) :
    nanos? (cs ++ rest) = some (n * 1000000, rest) := by
  obtain ⟨hrun, hdrop⟩ := Text.takeWhile_append_of_head h.digits hrest
  have hkept : cs.take 9 = cs := List.take_of_length_le (by rw [h.length]; decide)
  have hne : cs.isEmpty = false := by
    rw [List.isEmpty_eq_false_iff_exists_mem]
    exact List.exists_mem_of_length_pos (by rw [h.length]; decide)
  simp only [nanos?, hrun, hdrop, hkept, hne, h.length, h.value, Bool.false_eq_true, if_false]

/-- Reading goes on behind a field. -/
theorem bind_digits?_field {β : Type} {width n : Nat} {cs : List Char} (hwidth : 0 < width)
    (h : IsField width n cs) (rest : List Char) (f : Nat × List Char → Option β) :
    (digits? width width (cs ++ rest) >>= f) = f (n, rest) := by
  rw [digits?_field hwidth h]
  rfl

/-- Reading goes on behind a mark. -/
theorem bind_char?_self {β : Type} (c : Char) (cs : List Char) (f : List Char → Option β) :
    (char? c (c :: cs) >>= f) = f cs := by
  rw [char?, if_pos rfl]
  rfl

/-- Reading the exchange form with three digits of a fraction and the zone `Z`. -/
theorem timestamp?_fields {year month day hour minute second millis : Nat}
    {ys ms ds hs ns ss fs : List Char} (hy : IsField 4 year ys) (hm : IsField 2 month ms)
    (hd : IsField 2 day ds) (hh : IsField 2 hour hs) (hn : IsField 2 minute ns)
    (hs' : IsField 2 second ss) (hf : IsField 3 millis fs) :
    timestamp? (ys ++ '-' :: (ms ++ '-' :: (ds ++ 'T' :: (hs ++ ':' :: (ns ++ ':' ::
      (ss ++ '.' :: (fs ++ ['Z']))))))) =
      (Date.ofParts? year month day).bind fun date =>
        (timeOfDay? hour minute second (millis * 1000000)).map fun time =>
          Instant.ofDate date time.1 time.2 := by
  have hfraction : fraction? ('.' :: (fs ++ ['Z'])) = some (millis * 1000000, ['Z']) :=
    nanos?_field hf (by simp; decide)
  have hzone : zone? ['Z'] = some (0, []) := rfl
  -- One field after another, each with the mark behind it.
  refine (bind_digits?_field (by decide) hy _ _).trans ?_
  refine (bind_char?_self '-' _ _).trans ?_
  refine (bind_digits?_field (by decide) hm _ _).trans ?_
  refine (bind_char?_self '-' _ _).trans ?_
  refine (bind_digits?_field (by decide) hd _ _).trans ?_
  refine (bind_digits?_field (by decide) hh _ _).trans ?_
  refine (bind_char?_self ':' _ _).trans ?_
  refine (bind_digits?_field (by decide) hn _ _).trans ?_
  refine (bind_char?_self ':' _ _).trans ?_
  refine (bind_digits?_field (by decide) hs' _ _).trans ?_
  simp only [hfraction, hzone, Option.bind_eq_bind, Option.bind_some, List.isEmpty_nil, if_true,
    Int.sub_zero]
  cases Date.ofParts? year month day with
  | none => rfl
  | some date => cases timeOfDay? hour minute second (millis * 1000000) <;> rfl

/-! ## Dates and times of day -/

/-- The calendar has the date of every day whose year it has. -/
theorem ofParts?_ofDayNumber {n : Int} (hmin : Date.minYear ≤ (Date.ofDayNumber n).year)
    (hmax : (Date.ofDayNumber n).year ≤ Date.maxYear) :
    Date.ofParts? (Date.ofDayNumber n).year (Date.ofDayNumber n).month (Date.ofDayNumber n).day =
      some (Date.ofDayNumber n) := by
  obtain ⟨hmonth, hday, hfirst, hlast⟩ := ofDayNumber_spec n
  generalize Date.ofDayNumber n = d at *
  -- The month is as long as the next one begins after it.
  have hlength : firstDay (d.monthNumber + 1) =
      firstDay d.monthNumber + monthLength d.year d.month := by
    have hnext : d.monthNumber + 1 = d.year * 12 + (d.month : Int) := by
      simp only [Date.monthNumber]
      omega
    rw [hnext, Date.monthNumber, firstDay_eq d.year (by omega), firstDay_eq d.year (by omega),
      Nat.sub_add_cancel hmonth.1, daysBeforeMonth_succ d.year hmonth.1]
    omega
  unfold Date.ofParts?
  rw [if_pos]
  simp only [Bool.and_eq_true, decide_eq_true_eq]
  omega

/-- A date that the calendar has lies in its month. -/
theorem day_le_monthLength {year : Int} {month day : Nat} {d : Date}
    (h : Date.ofParts? year month day = some d) : day ≤ monthLength year month := by
  unfold Date.ofParts? at h
  split_ifs at h with hparts
  simp only [Bool.and_eq_true, decide_eq_true_eq] at hparts
  exact hparts.2

theorem monthLength_le (year : Int) (month : Nat) : monthLength year month ≤ 31 := by
  unfold monthLength
  split
  · split_ifs <;> decide
  all_goals decide

/-- Hours, minutes and seconds of a second of the day make up that second. -/
theorem timeOfDay?_secondOfDay {second : Nat} (h : second < 86400) (nanos : Nat) :
    timeOfDay? (second / 3600) (second / 60 % 60) (second % 60) nanos = some (second, nanos) := by
  have hhour : second / 3600 < 24 := by omega
  have hminute : second / 60 % 60 < 60 := by omega
  have hsecond : second % 60 ≤ 60 := by omega
  have hregular : second % 60 ≠ 60 := by omega
  have hsum : second / 3600 * 3600 + second / 60 % 60 * 60 + second % 60 = second := by omega
  simp only [timeOfDay?, hhour, hminute, hsecond, hregular, hsum, decide_true, Bool.and_self,
    if_true, if_false]

namespace Instant

/-- Milliseconds at which the year 10000 begins. -/
def fourDigitEnd : Int := 253402300800000

/-- Whether an instant lies between the years 1 and 9999 and in no leap second. -/
structure InFourDigits (t : Instant) : Prop where
  since : Interval.originMillis ≤ t.millis
  before : t.millis < fourDigitEnd
  regular : t.nanos < 1000000000

variable {t : Instant}

theorem inFourDigits_atMillis {ms : Int} (hsince : Interval.originMillis ≤ ms)
    (hbefore : ms < fourDigitEnd) : (atMillis ms).InFourDigits := by
  refine ⟨?_, ?_, nanos_atMillis_lt ms⟩
  · rwa [millis_atMillis]
  · rwa [millis_atMillis]

/-- The year of such an instant has four digits. -/
theorem InFourDigits.year (h : t.InFourDigits) : 1 ≤ t.date.year ∧ t.date.year ≤ 9999 := by
  obtain ⟨hsince, hbefore, hregular⟩ := h
  obtain ⟨hmonth, -, hfirst, hlast⟩ := ofDayNumber_spec (t.seconds / daySeconds)
  have hstart : firstDay 12 = -719162 := by decide
  have hend : firstDay 120000 = 2932897 := by decide
  simp only [Instant.millis, Interval.originMillis, fourDigitEnd] at hsince hbefore
  have hafter : firstDay 12 <
      firstDay ((Date.ofDayNumber (t.seconds / daySeconds)).monthNumber + 1) := by
    rw [hstart]
    simp only [daySeconds] at *
    omega
  have huntil : firstDay (Date.ofDayNumber (t.seconds / daySeconds)).monthNumber <
      firstDay 120000 := by
    rw [hend]
    simp only [daySeconds] at *
    omega
  rw [firstDay_lt_iff] at hafter huntil
  simp only [Date.monthNumber, Instant.date] at *
  omega

theorem secondOfDay_lt (t : Instant) : t.secondOfDay < 86400 := by
  simp only [secondOfDay, daySeconds]
  omega

/-- The date and the time of day of an instant make up its seconds. -/
theorem ofDate_date (t : Instant) (nanos : Nat) :
    ofDate t.date t.secondOfDay nanos = ⟨t.seconds, nanos⟩ := by
  simp only [ofDate, Instant.date, dayNumber_ofDayNumber, secondOfDay, daySeconds,
    Instant.mk.injEq, and_true]
  omega

/-- The text of an instant is that of its milliseconds. -/
theorem text_atMillis (h : t.nanos < 1000000000) : (atMillis t.millis).text = t.text := by
  have hseconds : (atMillis t.millis).seconds = t.seconds := by
    simp only [atMillis, millis]
    omega
  have hnanos : (atMillis t.millis).nanos / 1000000 = t.nanos / 1000000 := by
    simp only [atMillis, millis]
    omega
  have hregular := nanos_atMillis_lt t.millis
  simp only [text, date, secondOfDay, hseconds, Nat.not_le.mpr h, Nat.not_le.mpr hregular,
    if_false, hnanos]

/-- Reading the text of an instant gives its milliseconds back. -/
theorem timestamp?_text (h : t.InFourDigits) :
    timestamp? t.text.toList = some (atMillis t.millis) := by
  obtain ⟨hfrom, hto⟩ := h.year
  have hregular := h.regular
  have hleap : ¬ 1000000000 ≤ t.nanos := by omega
  have hdate : Date.ofParts? t.date.year t.date.month t.date.day = some t.date :=
    ofParts?_ofDayNumber (le_trans (by decide) hfrom) (le_trans hto (by decide))
  have hmonth : 1 ≤ t.date.month ∧ t.date.month ≤ 12 := (ofDayNumber_spec _).1
  have hday : t.date.day ≤ monthLength t.date.year t.date.month := day_le_monthLength hdate
  have hlength := monthLength_le t.date.year t.date.month
  have hsecond := secondOfDay_lt t
  have hyear : yearText t.date.year = Text.paddedText 4 t.date.year.natAbs := by
    rw [yearText, if_pos]
    simp only [Bool.and_eq_true, decide_eq_true_eq]
    omega
  have hchars : t.text.toList =
      (Text.paddedText 4 t.date.year.natAbs).toList ++ '-' ::
        ((Text.paddedText 2 t.date.month).toList ++ '-' ::
        ((Text.paddedText 2 t.date.day).toList ++ 'T' ::
        ((Text.paddedText 2 (t.secondOfDay / 3600)).toList ++ ':' ::
        ((Text.paddedText 2 (t.secondOfDay / 60 % 60)).toList ++ ':' ::
        ((Text.paddedText 2 (t.secondOfDay % 60)).toList ++ '.' ::
        ((Text.paddedText 3 (t.nanos / 1000000)).toList ++ ['Z'])))))) := by
    simp [text, hyear, hleap]
  -- every field fits its width, and so it is read back whole
  have hfields := timestamp?_fields
    (isField_paddedText 4 t.date.year.natAbs (by decide) (by omega))
    (isField_paddedText 2 t.date.month (by decide) (by omega))
    (isField_paddedText 2 t.date.day (by decide) (by omega))
    (isField_paddedText 2 (t.secondOfDay / 3600) (by decide) (by omega))
    (isField_paddedText 2 (t.secondOfDay / 60 % 60) (by decide) (by omega))
    (isField_paddedText 2 (t.secondOfDay % 60) (by decide) (by omega))
    (isField_paddedText 3 (t.nanos / 1000000) (by decide) (by omega))
  have hyearAbs : (t.date.year.natAbs : Int) = t.date.year := by omega
  have htime : timeOfDay? (t.secondOfDay / 3600) (t.secondOfDay / 60 % 60) (t.secondOfDay % 60)
      (t.nanos / 1000000 * 1000000) = some (t.secondOfDay, t.nanos / 1000000 * 1000000) :=
    timeOfDay?_secondOfDay hsecond _
  have hmillis : (⟨t.seconds, t.nanos / 1000000 * 1000000⟩ : Instant) = atMillis t.millis := by
    simp only [atMillis, millis, Instant.mk.injEq]
    omega
  rw [hchars, hfields, hyearAbs, hdate, htime, Option.bind_some, Option.map_some, ofDate_date,
    hmillis]

/-- Reading the text of an instant in milliseconds gives the instant back. -/
theorem instant?_text_atMillis {ms : Int} (hsince : Interval.originMillis ≤ ms)
    (hbefore : ms < fourDigitEnd) : instant? (atMillis ms).text = some (atMillis ms) := by
  have hread := timestamp?_text (inFourDigits_atMillis hsince hbefore)
  rw [millis_atMillis] at hread
  rw [instant?, hread]

end Instant

end Calendar

end KustoSearch
