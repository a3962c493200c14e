import KustoSearch.Engine.Payload
import KustoSearch.Proofs.Decimal.Value
import KustoSearch.Proofs.Outcome

/-! # Following a table of contents

The rows of a table of contents take tables out of a list one by one, and look at some for the time
of the engine. What has been read behind some rows is told by the rows alone: `Followed`. A row is
followed unless it is `Misleading` in view of the rows before it, or comes to a time that is too
long for a duration.
-/

namespace KustoSearch

namespace Payload

/-! ## Durations -/

theorem nanos_of_nonneg {seconds : Binary64} (h : 0 ≤ seconds.power) :
    nanos seconds = seconds.coefficient * 10 ^ 9 * 2 ^ seconds.power.toNat := by
  unfold nanos
  rw [if_pos h]
  rfl

/-- A number with binary places after the point is small. -/
theorem nanos_le_of_neg {seconds : Binary64} (h : ¬0 ≤ seconds.power) :
    nanos seconds ≤ seconds.coefficient * 10 ^ 9 + 1 := by
  have hquotient : seconds.coefficient * 10 ^ 9 / 2 ^ (-seconds.power).toNat ≤
      seconds.coefficient * 10 ^ 9 := Nat.div_le_self _ _
  simp only [nanos, if_neg h, Nat.pow_eq]
  split
  · exact hquotient.trans (Nat.le_add_right _ _)
  · exact Nat.add_le_add_right hquotient 1

/-- The seconds of a duration are below `2^64`, however they are rounded to nanoseconds. -/
theorem nanos_lt_iff (seconds : Binary64) :
    nanos seconds < Nat.pow 2 64 * Nat.pow 10 9 ↔ seconds.magnitude < 2 ^ 64 := by
  by_cases hpower : 0 ≤ seconds.power
  · have hscale : (2 : ℚ) ^ seconds.power = ((2 ^ seconds.power.toNat : Nat) : ℚ) := by
      rw [Nat.cast_pow, ← zpow_natCast, Int.toNat_of_nonneg hpower]
      rfl
    have hmagnitude : seconds.magnitude < 2 ^ 64 ↔
        seconds.coefficient * 2 ^ seconds.power.toNat < 2 ^ 64 := by
      rw [Binary64.magnitude, hscale]
      exact_mod_cast Iff.rfl
    rw [hmagnitude, nanos_of_nonneg hpower, Nat.mul_right_comm]
    exact Nat.mul_lt_mul_right (by decide)
  · -- below `2^53` on both sides
    have hcoefficient := seconds.coefficient_lt
    have hscale : (2 : ℚ) ^ seconds.power ≤ 1 :=
      zpow_le_one_of_nonpos₀ (by norm_num) (by omega)
    have hsmall : (seconds.coefficient : ℚ) < 2 ^ 64 := by
      exact_mod_cast hcoefficient.trans (by decide)
    have hmagnitude : seconds.magnitude ≤ seconds.coefficient :=
      mul_le_of_le_one_right (Nat.cast_nonneg _) hscale
    refine iff_of_true ?_ (hmagnitude.trans_lt hsmall)
    have hnanos := nanos_le_of_neg hpower
    simp only [Nat.pow_eq]
    omega

/-- The seconds that a status table tells. -/
def RawTable.told? (table : RawTable) : Option Binary64 :=
  (table.columnIndex? "StatusDescription").bind fun column =>
    table.rows.findSome? (seconds? column)

theorem engineTime_of_none {table : RawTable} (h : table.told? = none) :
    engineTime table = .ok none := by
  unfold engineTime
  unfold RawTable.told? at h
  cases hcolumn : table.columnIndex? "StatusDescription" with
  | none => rfl
  | some column =>
    rw [hcolumn, Option.bind_some] at h
    simp only [h]

theorem engineTime_of_some {table : RawTable} {seconds : Binary64}
    (h : table.told? = some seconds) : engineTime table =
      if nanos seconds < Nat.pow 2 64 * Nat.pow 10 9 then .ok (some (nanos seconds))
      else .error (.fault .durationOutOfRange) := by
  obtain ⟨column, hcolumn, h⟩ := Option.bind_eq_some_iff.mp h
  simp only [engineTime, hcolumn, h]

/-! ## Tables under a name -/

/-- A table that is a sent one under a name. -/
structure RawTable.Is (table : RawTable) (name : String) (result : Table) : Prop where
  name_eq : result.name = name
  columns_eq : result.columns = table.columns
  rows_eq : result.rows.map Json.array = table.rows

/-- Whether a row is a list of cells. -/
def isCells : Json → Bool
  | .array _ => true
  | _ => false

theorem cells_eq_ok {name : String} {row : Json} {cs : Row} :
    cells name row = .ok cs ↔ Json.array cs = row := by
  cases row with
  | array items =>
    constructor
    · intro h
      cases h
      rfl
    · intro h
      cases h
      rfl
  | _ =>
    constructor
    · intro h
      cases h
    · intro h
      cases h

/-- The rows of a table are lists of cells. -/
theorem named_eq_ok {table : RawTable} {name : String} {result : Table}
    (h : table.named name = .ok result) : table.Is name result := by
  obtain ⟨rows, hrows, h⟩ := Outcome.bind_eq_ok.mp h
  cases h
  have hall := (Outcome.mapM_eq_ok.mp hrows).imp fun row cs hcs => cells_eq_ok.mp hcs
  refine ⟨rfl, rfl, ?_⟩
  -- row by row, the cells are those of the sent row
  rw [← List.forall₂_eq_eq_eq, List.forall₂_map_left_iff]
  exact hall.flip

theorem named_of_cells {table : RawTable} (name : String)
    (h : ∀ row ∈ table.rows, isCells row = true) :
    ∃ result, table.named name = .ok result ∧ table.Is name result := by
  obtain ⟨rows, hrows⟩ := Outcome.exists_mapM_eq_ok (f := cells name) fun row hrow => by
    have hcells := h row hrow
    cases row with
    | array cs => exact ⟨cs, rfl⟩
    | _ => cases hcells
  have hnamed : table.named name = .ok ⟨name, table.columns, rows⟩ :=
    Outcome.bind_eq_ok.mpr ⟨rows, hrows, rfl⟩
  exact ⟨_, hnamed, named_eq_ok hnamed⟩

theorem named_of_other {table : RawTable} (name : String) {row : Json} (hrow : row ∈ table.rows)
    (h : isCells row = false) : ∃ detail, table.named name = refused detail := by
  cases hnamed : table.named name with
  | ok result =>
    rw [← (named_eq_ok hnamed).rows_eq] at hrow
    obtain ⟨cs, _, rfl⟩ := List.mem_map.mp hrow
    cases h
  | error stop =>
    rcases Outcome.bind_eq_error.mp hnamed with hrows | ⟨_, _, hdone⟩
    · obtain ⟨other, _, hother⟩ := Outcome.exists_mem_of_mapM_eq_error hrows
      cases other with
      | array items => cases hother
      | _ =>
        cases hother
        exact ⟨_, rfl⟩
    · cases hdone

/-! ## Rows of the contents -/

/-- What holds of every row in view of the rows before it. -/
def EachRow (holds : List Json → Json → Prop) (rows : List Json) : Prop :=
  ∀ earlier row later, rows = earlier ++ row :: later → holds earlier row

section EachRow

variable {holds : List Json → Json → Prop} {rows : List Json}

theorem eachRow_nil : EachRow holds [] := fun earlier row later h =>
  absurd h.symm (List.append_ne_nil_of_right_ne_nil earlier (List.cons_ne_nil row later))

theorem EachRow.of_append {more : List Json} (h : EachRow holds (rows ++ more)) :
    EachRow holds rows := by
  rintro earlier row later rfl
  exact h earlier row (later ++ more) (by simp)

theorem eachRow_concat {row : Json} :
    EachRow holds (rows ++ [row]) ↔ EachRow holds rows ∧ holds rows row := by
  constructor
  · intro h
    exact ⟨h.of_append, h rows row [] rfl⟩
  · rintro ⟨hrows, hrow⟩ earlier row' later heq
    -- the row is the last one, or it stands before it
    rcases List.eq_nil_or_concat' later with rfl | ⟨later, last, rfl⟩
    · obtain ⟨rfl, hlast⟩ := List.append_inj' heq rfl
      cases hlast
      exact hrow
    · rw [← List.cons_append, ← List.append_assoc] at heq
      obtain ⟨rfl, _⟩ := List.append_inj' heq rfl
      exact hrows earlier row' later rfl

/-- Where something does not hold of every row, there is a first row of which it does not. -/
theorem exists_first_of_not_eachRow (h : ¬EachRow holds rows) : ∃ earlier row later,
    rows = earlier ++ row :: later ∧ EachRow holds earlier ∧ ¬holds earlier row := by
  induction rows using List.reverseRecOn with
  | nil => exact absurd eachRow_nil h
  | append_singleton rows row ih =>
    by_cases hrows : EachRow holds rows
    · exact ⟨rows, row, [], rfl, hrows, fun hrow => h (eachRow_concat.mpr ⟨hrows, hrow⟩)⟩
    · obtain ⟨earlier, first, later, rfl, hfirst⟩ := ih hrows
      exact ⟨earlier, first, later ++ [row], by simp, hfirst⟩

end EachRow

section Following

variable (before : List RawTable) (columns : Contents)

/-- Whether a row of the contents is about a result. -/
def listsResult (row : Json) : Bool := cellText? row columns.kind = some "QueryResult"

/-- Whether a row of the contents is about a status. -/
def listsStatus (row : Json) : Bool := cellText? row columns.kind = some "QueryStatus"

/-- The place of the result that a row is about. -/
def resultPlace? (row : Json) : Option Nat :=
  if listsResult columns row then ordinal? row columns.ordinal else none

/-- The places of the results that rows are about. -/
def places (rows : List Json) : List Nat := rows.filterMap (resultPlace? columns)

/-- The seconds that a row leads to: its status table may have been taken before. -/
def told? (earlier : List Json) (row : Json) : Option Binary64 :=
  if listsStatus columns row then
    (ordinal? row columns.ordinal).bind fun place =>
      if place ∈ places columns earlier then none else before[place]?.bind RawTable.told?
  else none

/-- Why a row has no result. -/
inductive Misleading (earlier : List Json) (row : Json) : Prop where
  /-- It does not say which table it is about. -/
  | noOrdinal (hkind : listsResult columns row ∨ listsStatus columns row)
      (hordinal : ordinal? row columns.ordinal = none)
  /-- There is no such table. -/
  | outOfRange {place : Nat} (hplace : resultPlace? columns row = some place)
      (hlength : before.length ≤ place)
  /-- The table has been taken. -/
  | repeated {place : Nat} (hplace : resultPlace? columns row = some place)
      (hearlier : place ∈ places columns earlier)
  /-- A row of the table is no list of cells. -/
  | interrupted {place : Nat} {table : RawTable} {other : Json}
      (hplace : resultPlace? columns row = some place) (htable : before[place]? = some table)
      (hrow : other ∈ table.rows) (hother : isCells other = false)

/-- Whether a row is the first to lead to a time, and this time is too long for a duration. -/
def TooLong (earlier : List Json) (row : Json) : Prop :=
  EachRow (fun earlier row => told? before columns earlier row = none) earlier ∧
    ∃ seconds, told? before columns earlier row = some seconds ∧ 2 ^ 64 ≤ seconds.magnitude

/-- Whether a row can be followed. -/
def Passes (earlier : List Json) (row : Json) : Prop :=
  ¬Misleading before columns earlier row ∧ ¬TooLong before columns earlier row

/-- A table that is the one that a row is about. -/
def Lists (row : Json) (result : Table) : Prop :=
  ∃ place table, ordinal? row columns.ordinal = some place ∧ before[place]? = some table ∧
    table.Is ((cellText? row columns.name).getD "") result

/-- What has been read behind some rows. -/
structure Followed (rows : List Json) (reading : Reading) : Prop where
  left : ∀ place, reading.left[place]?.join =
    if place ∈ places columns rows then none else before[place]?
  results : List.Forall₂ (Lists before columns) (rows.filter (listsResult columns))
    reading.results
  untold : reading.engineNanos = none ↔
    EachRow (fun earlier row => told? before columns earlier row = none) rows
  inTime : ∀ nanos ∈ reading.engineNanos, nanos < Nat.pow 2 64 * Nat.pow 10 9

end Following

/-! ## One row -/

section Step

variable {before : List RawTable} {columns : Contents} {earlier : List Json} {row : Json}
  {reading : Reading}

theorem listsStatus_of_listsResult (h : listsResult columns row = true) :
    listsStatus columns row = false := by
  rw [listsResult, decide_eq_true_eq] at h
  rw [listsStatus, h]
  decide

theorem resultPlace?_eq_some {place : Nat} : resultPlace? columns row = some place ↔
    listsResult columns row = true ∧ ordinal? row columns.ordinal = some place := by
  unfold resultPlace?
  split_ifs with h
  · exact ⟨fun hplace => ⟨h, hplace⟩, fun hplace => hplace.2⟩
  · constructor
    · intro hplace
      cases hplace
    · rintro ⟨hresult, _⟩
      exact absurd hresult h

theorem resultPlace?_of_not_listsResult (h : listsResult columns row = false) :
    resultPlace? columns row = none := by
  rw [resultPlace?, h]
  rfl

theorem told?_eq_some {seconds : Binary64} : told? before columns earlier row = some seconds ↔
    listsStatus columns row = true ∧ ∃ place table, ordinal? row columns.ordinal = some place ∧
      place ∉ places columns earlier ∧ before[place]? = some table ∧
      table.told? = some seconds := by
  unfold told?
  split_ifs with h
  · rw [Option.bind_eq_some_iff]
    constructor
    · rintro ⟨place, hplace, htold⟩
      split_ifs at htold with hmem
      obtain ⟨table, htable, htold⟩ := Option.bind_eq_some_iff.mp htold
      exact ⟨h, place, table, hplace, hmem, htable, htold⟩
    · rintro ⟨_, place, table, hplace, hmem, htable, htold⟩
      exact ⟨place, hplace, by rw [if_neg hmem, htable]; exact htold⟩
  · constructor
    · intro htold
      cases htold
    · rintro ⟨hstatus, _⟩
      exact absurd hstatus h

theorem told?_of_not_listsStatus (h : listsStatus columns row = false) :
    told? before columns earlier row = none := by
  rw [told?, h]
  rfl

theorem follow_of_other (hresult : listsResult columns row = false)
    (hstatus : listsStatus columns row = false) : follow columns reading row = .ok reading := by
  simp only [listsResult, listsStatus, decide_eq_false_iff_not] at hresult hstatus
  simp [follow, hresult, hstatus]

theorem follow_of_noOrdinal (hkind : listsResult columns row ∨ listsStatus columns row)
    (h : ordinal? row columns.ordinal = none) :
    follow columns reading row = refused "invalid ordinal in table of contents" := by
  simp only [listsResult, listsStatus, decide_eq_true_eq] at hkind
  simp [follow, hkind, h]

theorem follow_of_result {place : Nat} (h : resultPlace? columns row = some place) :
    follow columns reading row =
      take reading place ((cellText? row columns.name).getD "") := by
  obtain ⟨hresult, hplace⟩ := resultPlace?_eq_some.mp h
  rw [listsResult, decide_eq_true_eq] at hresult
  simp [follow, hresult, hplace]

theorem follow_of_status {place : Nat} (hstatus : listsStatus columns row = true)
    (hplace : ordinal? row columns.ordinal = some place) :
    follow columns reading row = lookAt reading place := by
  rw [listsStatus, decide_eq_true_eq] at hstatus
  simp [follow, hstatus, hplace]

theorem take_of_none {place : Nat} (name : String) (h : reading.left[place]?.join = none) :
    ∃ detail, take reading place name = refused detail := by
  unfold take
  rw [h]
  exact ⟨_, rfl⟩

theorem take_of_some {place : Nat} {name : String} {table : RawTable}
    (h : reading.left[place]?.join = some table) : take reading place name =
      (table.named name >>= fun result => .ok { reading with
        left := reading.left.set place none
        results := reading.results ++ [result] }) := by
  unfold take
  rw [h]

theorem lookAt_of_none {place : Nat} (h : reading.left[place]?.join = none) :
    lookAt reading place = .ok reading := by
  unfold lookAt
  rw [h]
  cases reading.engineNanos <;> rfl

theorem lookAt_of_time {place : Nat} (h : reading.engineNanos ≠ none) :
    lookAt reading place = .ok reading := by
  obtain ⟨time, htime⟩ := Option.ne_none_iff_exists'.mp h
  unfold lookAt
  rw [htime]

theorem lookAt_of_some {place : Nat} {table : RawTable} (htime : reading.engineNanos = none)
    (h : reading.left[place]?.join = some table) : lookAt reading place =
      (engineTime table >>= fun time => .ok { reading with engineNanos := time }) := by
  unfold lookAt
  rw [htime, h]

/-- A misleading row stops the reading. -/
theorem Followed.misleading (h : Followed before columns earlier reading)
    (hrow : Misleading before columns earlier row) :
    ∃ detail, follow columns reading row = refused detail := by
  cases hrow with
  | noOrdinal hkind hordinal => exact ⟨_, follow_of_noOrdinal hkind hordinal⟩
  | @outOfRange place hplace hlength =>
    rw [follow_of_result hplace]
    refine take_of_none _ ?_
    rw [h.left, List.getElem?_eq_none hlength, ite_self]
  | repeated hplace hearlier =>
    rw [follow_of_result hplace]
    refine take_of_none _ ?_
    rw [h.left, if_pos hearlier]
  | @interrupted place table other hplace htable hrow hother =>
    rw [follow_of_result hplace]
    -- the table may have been taken before, which is refused as well
    by_cases hearlier : place ∈ places columns earlier
    · exact take_of_none _ (by rw [h.left, if_pos hearlier])
    · rw [take_of_some (by rw [h.left, if_neg hearlier, htable])]
      obtain ⟨detail, hnamed⟩ := named_of_other ((cellText? row columns.name).getD "") hrow hother
      rw [hnamed]
      exact ⟨detail, rfl⟩

/-- The first time that is too long stops the reading with a fault. -/
theorem Followed.tooLong (h : Followed before columns earlier reading)
    (hrow : TooLong before columns earlier row) :
    follow columns reading row = .error (.fault .durationOutOfRange) := by
  obtain ⟨hearlier, seconds, hseconds, hlong⟩ := hrow
  obtain ⟨hstatus, place, table, hplace, hmem, htable, htold⟩ := told?_eq_some.mp hseconds
  have hleft : reading.left[place]?.join = some table := by
    rw [h.left, if_neg hmem, htable]
  have hnanos : ¬nanos seconds < Nat.pow 2 64 * Nat.pow 10 9 := by
    rw [nanos_lt_iff]
    exact not_lt.mpr hlong
  rw [follow_of_status hstatus hplace, lookAt_of_some (h.untold.mpr hearlier) hleft,
    engineTime_of_some htold, if_neg hnanos]
  rfl

/-- A place that is emptied holds nothing, whether it is in the list or not. -/
theorem join_getElem?_set {α : Type} (slots : List (Option α)) (place p : Nat) :
    (slots.set place none)[p]?.join = if p = place then none else slots[p]?.join := by
  rw [List.getElem?_set]
  by_cases hp : place = p
  · rw [if_pos hp, if_pos hp.symm]
    split_ifs <;> rfl
  · rw [if_neg hp, if_neg (Ne.symm hp)]

theorem places_concat_of_none (h : resultPlace? columns row = none) :
    places columns (earlier ++ [row]) = places columns earlier := by
  rw [places, List.filterMap_append, List.filterMap_cons_none h, List.filterMap_nil,
    List.append_nil]
  rfl

theorem places_concat_of_some {place : Nat} (h : resultPlace? columns row = some place) :
    places columns (earlier ++ [row]) = places columns earlier ++ [place] := by
  rw [places, List.filterMap_append, List.filterMap_cons_some h, List.filterMap_nil]
  rfl

/-- A row that is not about a result changes at most the time. -/
theorem Followed.keep (h : Followed before columns earlier reading)
    (hresult : listsResult columns row = false) {time : Option Nat}
    (huntold : time = none ↔
      EachRow (fun earlier row => told? before columns earlier row = none) (earlier ++ [row]))
    (hinTime : ∀ nanos ∈ time, nanos < Nat.pow 2 64 * Nat.pow 10 9) :
    Followed before columns (earlier ++ [row]) { reading with engineNanos := time } := by
  have hplaces : places columns (earlier ++ [row]) = places columns earlier :=
    places_concat_of_none (resultPlace?_of_not_listsResult hresult)
  refine ⟨?_, ?_, huntold, hinTime⟩
  · rw [hplaces]
    exact h.left
  · rw [List.filter_append, List.filter_cons_of_neg (by simp [hresult]), List.filter_nil,
      List.append_nil]
    exact h.results

/-- A row that leads to no time leaves the time as it is. -/
theorem Followed.untold_concat (h : Followed before columns earlier reading)
    (hnone : told? before columns earlier row = none) : reading.engineNanos = none ↔
      EachRow (fun earlier row => told? before columns earlier row = none)
        (earlier ++ [row]) := by
  rw [eachRow_concat, h.untold]
  exact (and_iff_left hnone).symm

theorem Followed.other (h : Followed before columns earlier reading)
    (hresult : listsResult columns row = false) (hnone : told? before columns earlier row = none) :
    Followed before columns (earlier ++ [row]) reading :=
  h.keep hresult (h.untold_concat hnone) h.inTime

/-- A row about a result takes its table. -/
theorem Followed.result (h : Followed before columns earlier reading) {place : Nat}
    (hplace : resultPlace? columns row = some place)
    (hrow : ¬Misleading before columns earlier row) : ∃ next,
      follow columns reading row = .ok next ∧ Followed before columns (earlier ++ [row]) next := by
  obtain ⟨hresult, hordinal⟩ := resultPlace?_eq_some.mp hplace
  -- as the row does not mislead, its table is there, and all rows of the table are lists of cells
  have hmem : place ∉ places columns earlier := fun hmem => hrow (.repeated hplace hmem)
  have hlength : place < before.length := not_le.mp fun hle => hrow (.outOfRange hplace hle)
  have htable : before[place]? = some before[place] := List.getElem?_eq_getElem hlength
  have hleft : reading.left[place]?.join = some before[place] := by
    rw [h.left, if_neg hmem, htable]
  have hcells : ∀ other ∈ before[place].rows, isCells other = true := by
    intro other hother
    by_contra hnone
    exact hrow (.interrupted hplace htable hother (by simpa using hnone))
  obtain ⟨result, hnamed, his⟩ := named_of_cells ((cellText? row columns.name).getD "") hcells
  refine ⟨_, by rw [follow_of_result hplace, take_of_some hleft, hnamed]; rfl, ?_, ?_, ?_, ?_⟩
  · intro p
    show (reading.left.set place none)[p]?.join = _
    rw [places_concat_of_some hplace, join_getElem?_set, h.left]
    by_cases hp : p = place
    · simp [hp]
    · simp [hp]
  · rw [List.filter_append, List.filter_cons_of_pos hresult, List.filter_nil]
    exact List.rel_append h.results
      (.cons ⟨place, before[place], hordinal, htable, his⟩ .nil)
  · exact h.untold_concat (told?_of_not_listsStatus (listsStatus_of_listsResult hresult))
  · exact h.inTime

/-- The time that a row leads to is told by the table that is still there. -/
theorem Followed.told?_eq (h : Followed before columns earlier reading) {place : Nat}
    (hstatus : listsStatus columns row = true)
    (hplace : ordinal? row columns.ordinal = some place) :
    told? before columns earlier row = reading.left[place]?.join.bind RawTable.told? := by
  rw [told?, if_pos hstatus, hplace, h.left, Option.bind_some]
  split_ifs <;> rfl

/-- A row about a status may tell the time. -/
theorem Followed.status (h : Followed before columns earlier reading) {place : Nat}
    (hstatus : listsStatus columns row = true)
    (hplace : ordinal? row columns.ordinal = some place)
    (hrow : ¬TooLong before columns earlier row) : ∃ next,
      follow columns reading row = .ok next ∧ Followed before columns (earlier ++ [row]) next := by
  have hresult : listsResult columns row = false := by
    by_contra hresult
    rw [listsStatus_of_listsResult (by simpa using hresult)] at hstatus
    cases hstatus
  have htold := h.told?_eq hstatus hplace
  rw [follow_of_status hstatus hplace]
  by_cases htime : reading.engineNanos = none
  · cases hleft : reading.left[place]?.join with
    | none =>
      -- no table stands there any more, or none ever did
      rw [hleft] at htold
      exact ⟨reading, lookAt_of_none hleft, h.other hresult htold⟩
    | some table =>
      rw [hleft, Option.bind_some] at htold
      rw [lookAt_of_some htime hleft]
      cases hseconds : table.told? with
      | none =>
        rw [hseconds] at htold
        have hnone := (h.untold_concat htold).mp htime
        refine ⟨_, by rw [engineTime_of_none hseconds]; rfl,
          h.keep hresult (iff_of_true rfl hnone) ?_⟩
        exact fun n hn => nomatch hn
      | some seconds =>
        -- the first time, which the row does not tell too long
        rw [hseconds] at htold
        have hshort : nanos seconds < Nat.pow 2 64 * Nat.pow 10 9 := by
          rw [nanos_lt_iff]
          by_contra hlong
          exact hrow ⟨h.untold.mp htime, seconds, htold, not_lt.mp hlong⟩
        refine ⟨_, by rw [engineTime_of_some hseconds, if_pos hshort]; rfl, h.keep hresult ?_ ?_⟩
        · rw [eachRow_concat, htold]
          simp
        · intro n hn
          cases hn
          exact hshort
  · -- the time is known, and no other one is looked for
    refine ⟨reading, lookAt_of_time htime, h.keep hresult ?_ h.inTime⟩
    rw [eachRow_concat, ← h.untold]
    exact iff_of_false htime fun hboth => htime hboth.1

/-- A row that passes is followed. -/
theorem Followed.passes (h : Followed before columns earlier reading)
    (hrow : Passes before columns earlier row) : ∃ next,
      follow columns reading row = .ok next ∧ Followed before columns (earlier ++ [row]) next := by
  obtain ⟨hclear, hshort⟩ := hrow
  cases hresult : listsResult columns row with
  | true =>
    cases hplace : ordinal? row columns.ordinal with
    | none => exact absurd (.noOrdinal (Or.inl hresult) hplace) hclear
    | some place => exact h.result (resultPlace?_eq_some.mpr ⟨hresult, hplace⟩) hclear
  | false =>
    cases hstatus : listsStatus columns row with
    | true =>
      cases hplace : ordinal? row columns.ordinal with
      | none => exact absurd (.noOrdinal (Or.inr hstatus) hplace) hclear
      | some place => exact h.status hstatus hplace hshort
    | false =>
      exact ⟨reading, follow_of_other hresult hstatus,
        h.other hresult (told?_of_not_listsStatus hstatus)⟩

end Step

/-! ## All rows -/

section Run

variable {before : List RawTable} {columns : Contents} {rows : List Json}

/-- Nothing has been read before the first row. -/
def Reading.start (before : List RawTable) : Reading := ⟨before.map some, [], none⟩

theorem followed_start : Followed before columns [] (Reading.start before) where
  left place := by
    show (before.map some)[place]?.join = _
    rw [List.getElem?_map]
    cases before[place]? <;> rfl
  results := .nil
  untold := iff_of_true rfl eachRow_nil
  inTime _ hnanos := nomatch hnanos

/-- Rows that pass one after another are followed to the end. -/
theorem exists_followed (h : EachRow (Passes before columns) rows) : ∃ reading,
    rows.foldlM (follow columns) (Reading.start before) = .ok reading ∧
      Followed before columns rows reading := by
  -- from the end, for a row is seen in view of all rows before it
  induction rows using List.reverseRecOn with
  | nil => exact ⟨_, rfl, followed_start⟩
  | append_singleton rows row ih =>
    obtain ⟨hrows, hrow⟩ := eachRow_concat.mp h
    obtain ⟨reading, hreading, hfollowed⟩ := ih hrows
    obtain ⟨next, hnext, hfollowedNext⟩ := hfollowed.passes hrow
    refine ⟨next, ?_, hfollowedNext⟩
    rw [List.foldlM_append]
    refine Outcome.bind_eq_ok.mpr ⟨reading, hreading, ?_⟩
    rw [List.foldlM_cons]
    exact Outcome.bind_eq_ok.mpr ⟨next, hnext, rfl⟩

/-- A row that does not pass stops the reading, whatever stands behind it. -/
theorem foldlM_of_stop {earlier later : List Json} {row : Json} {stop : EngineStop}
    {reading : Reading}
    (hreading : earlier.foldlM (follow columns) (Reading.start before) = .ok reading)
    (hstop : follow columns reading row = .error stop) :
    (earlier ++ row :: later).foldlM (follow columns) (Reading.start before) = .error stop := by
  rw [List.foldlM_append]
  refine Outcome.bind_eq_error.mpr (Or.inr ⟨reading, hreading, ?_⟩)
  rw [List.foldlM_cons]
  exact Outcome.bind_eq_error.mpr (Or.inl hstop)

/-- Rows are followed to the end, or a first row does not pass: it misleads, or it leads to a time
that is too long. -/
theorem foldlM_follow (before : List RawTable) (columns : Contents) (rows : List Json) :
    (EachRow (Passes before columns) rows ∧ ∃ reading,
      rows.foldlM (follow columns) (Reading.start before) = .ok reading ∧
        Followed before columns rows reading) ∨
    ∃ earlier row later, rows = earlier ++ row :: later ∧
      EachRow (Passes before columns) earlier ∧
        ((Misleading before columns earlier row ∧ ∃ detail,
          rows.foldlM (follow columns) (Reading.start before) = refused detail) ∨
        (TooLong before columns earlier row ∧
          rows.foldlM (follow columns) (Reading.start before) =
            .error (.fault .durationOutOfRange))) := by
  by_cases hall : EachRow (Passes before columns) rows
  · exact Or.inl ⟨hall, exists_followed hall⟩
  · right
    obtain ⟨earlier, row, later, rfl, hearlier, hrow⟩ := exists_first_of_not_eachRow hall
    obtain ⟨reading, hreading, hfollowed⟩ := exists_followed hearlier
    refine ⟨earlier, row, later, rfl, hearlier, ?_⟩
    by_cases hclear : Misleading before columns earlier row
    · obtain ⟨detail, hdetail⟩ := hfollowed.misleading hclear
      exact Or.inl ⟨hclear, detail, foldlM_of_stop hreading hdetail⟩
    · have hlong : TooLong before columns earlier row := by
        by_contra hshort
        exact hrow ⟨hclear, hshort⟩
      exact Or.inr ⟨hlong, foldlM_of_stop hreading (hfollowed.tooLong hlong)⟩

end Run

end Payload

end KustoSearch
