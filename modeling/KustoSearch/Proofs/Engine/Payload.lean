import KustoSearch.Proofs.Engine.Contents

/-! # The results of a payload

A payload whose table of contents is sound brings the tables that the contents list, under their
names and otherwise as they were sent; any other one brings nothing: `results_listed`. Reading a
payload never ends in anything but a result or a permanent error, unless it comes to a time that is
too long for a duration: `stops_iff`.
-/

namespace KustoSearch.Payload

/-! ## Sound contents -/

/-- Contents that say where the results among some tables are. -/
structure Sound (before : List RawTable) (contents : RawTable) (columns : Contents) : Prop where
  ordinal : contents.columnIndex? "Ordinal" = some columns.ordinal
  kind : contents.columnIndex? "Kind" = some columns.kind
  name : contents.columnIndex? "Name" = some columns.name
  /-- Every row about a result or a status says which table it is about. -/
  ordinals : ∀ row ∈ contents.rows, listsResult columns row || listsStatus columns row →
    ordinal? row columns.ordinal ≠ none
  /-- A result is one of the tables, and not the contents. -/
  inRange : ∀ place ∈ places columns contents.rows, place < before.length
  distinct : (places columns contents.rows).Nodup
  cells : ∀ place ∈ places columns contents.rows, ∀ table ∈ before[place]?,
    ∀ row ∈ table.rows, isCells row = true

/-- Whether the times that the contents lead to are durations. -/
def ShortTimes (before : List RawTable) (contents : RawTable) : Prop :=
  ∀ columns ∈ Contents.of? contents, ∀ row ∈ contents.rows, listsStatus columns row →
    ∀ place ∈ ordinal? row columns.ordinal, ∀ table ∈ before[place]?,
      ∀ seconds ∈ table.told?, seconds.magnitude < 2 ^ 64

instance (before : List RawTable) (contents : RawTable) (columns : Contents) :
    Decidable (Sound before contents columns) :=
  decidable_of_iff
    (contents.columnIndex? "Ordinal" = some columns.ordinal ∧
      contents.columnIndex? "Kind" = some columns.kind ∧
      contents.columnIndex? "Name" = some columns.name ∧
      (∀ row ∈ contents.rows, listsResult columns row || listsStatus columns row →
        ordinal? row columns.ordinal ≠ none) ∧
      (∀ place ∈ places columns contents.rows, place < before.length) ∧
      (places columns contents.rows).Nodup ∧
      ∀ place ∈ places columns contents.rows, ∀ table ∈ before[place]?,
        ∀ row ∈ table.rows, isCells row = true)
    ⟨fun ⟨h₁, h₂, h₃, h₄, h₅, h₆, h₇⟩ => ⟨h₁, h₂, h₃, h₄, h₅, h₆, h₇⟩,
      fun ⟨h₁, h₂, h₃, h₄, h₅, h₆, h₇⟩ => ⟨h₁, h₂, h₃, h₄, h₅, h₆, h₇⟩⟩

instance (before : List RawTable) (contents : RawTable) : Decidable (ShortTimes before contents) :=
  inferInstanceAs (Decidable (∀ columns ∈ Contents.of? contents, ∀ row ∈ contents.rows,
    listsStatus columns row → ∀ place ∈ ordinal? row columns.ordinal, ∀ table ∈ before[place]?,
      ∀ seconds ∈ table.told?, seconds.magnitude < 2 ^ 64))

section Sound

variable {before : List RawTable} {contents : RawTable} {columns : Contents}

theorem mem_places {rows : List Json} {place : Nat} : place ∈ places columns rows ↔
    ∃ row ∈ rows, resultPlace? columns row = some place := List.mem_filterMap

theorem places_append (rows more : List Json) :
    places columns (rows ++ more) = places columns rows ++ places columns more :=
  List.filterMap_append

theorem contents_of?_eq_some : Contents.of? contents = some columns ↔
    contents.columnIndex? "Ordinal" = some columns.ordinal ∧
      contents.columnIndex? "Kind" = some columns.kind ∧
      contents.columnIndex? "Name" = some columns.name := by
  simp only [Contents.of?, Option.bind_eq_bind, Option.bind_eq_some_iff]
  constructor
  · rintro ⟨ordinal, hordinal, kind, hkind, name, hname, h⟩
    cases h
    exact ⟨hordinal, hkind, hname⟩
  · rintro ⟨hordinal, hkind, hname⟩
    exact ⟨_, hordinal, _, hkind, _, hname, rfl⟩

/-- Rows of which none is about a table that has been taken. -/
theorem nodup_places {rows : List Json}
    (h : EachRow (fun earlier row => ¬Misleading before columns earlier row) rows) :
    (places columns rows).Nodup := by
  induction rows using List.reverseRecOn with
  | nil => exact List.nodup_nil
  | append_singleton rows row ih =>
    obtain ⟨hrows, hrow⟩ := eachRow_concat.mp h
    cases hplace : resultPlace? columns row with
    | none =>
      rw [places_concat_of_none hplace]
      exact ih hrows
    | some place =>
      rw [places_concat_of_some hplace, List.nodup_append]
      refine ⟨ih hrows, List.pairwise_singleton _ place, fun p hp q hq heq => ?_⟩
      rw [List.mem_singleton] at hq
      exact hrow (.repeated hplace (by rwa [← hq, ← heq]))

/-- No row of sound contents misleads. -/
theorem Sound.not_misleading (h : Sound before contents columns) :
    EachRow (fun earlier row => ¬Misleading before columns earlier row) contents.rows := by
  intro earlier row later hrows hrow
  have hmem : row ∈ contents.rows := by
    simp [hrows]
  -- the places before the row and the place of the row itself are different ones of all places
  have hplaces {place : Nat} (hplace : resultPlace? columns row = some place) :
      places columns contents.rows =
        places columns earlier ++ place :: places columns later := by
    rw [hrows, places_append, places, places, places, List.filterMap_cons_some hplace]
  cases hrow with
  | noOrdinal hkind hordinal => exact h.ordinals row hmem (by simpa using hkind) hordinal
  | @outOfRange place hplace hlength =>
    have hlt := h.inRange place (mem_places.mpr ⟨row, hmem, hplace⟩)
    omega
  | repeated hplace hearlier =>
    have hdistinct := h.distinct
    rw [hplaces hplace, List.nodup_append] at hdistinct
    exact hdistinct.2.2 _ hearlier _ List.mem_cons_self rfl
  | interrupted hplace htable hrow hother =>
    rw [h.cells _ (mem_places.mpr ⟨row, hmem, hplace⟩) _ htable _ hrow] at hother
    cases hother

/-- Contents none of whose rows misleads are sound. -/
theorem sound_of_not_misleading (hcolumns : Contents.of? contents = some columns)
    (h : EachRow (fun earlier row => ¬Misleading before columns earlier row) contents.rows) :
    Sound before contents columns := by
  obtain ⟨hordinal, hkind, hname⟩ := contents_of?_eq_some.mp hcolumns
  have hrow : ∀ row ∈ contents.rows, ∃ earlier, ¬Misleading before columns earlier row := by
    intro row hmem
    obtain ⟨earlier, later, hrows⟩ := List.append_of_mem hmem
    exact ⟨earlier, h earlier row later hrows⟩
  constructor
  case ordinal => exact hordinal
  case kind => exact hkind
  case name => exact hname
  case ordinals =>
    intro row hmem hlists hnone
    obtain ⟨earlier, hclear⟩ := hrow row hmem
    exact hclear (.noOrdinal (by simpa using hlists) hnone)
  case inRange =>
    intro place hplace
    obtain ⟨row, hmem, hplace⟩ := mem_places.mp hplace
    obtain ⟨earlier, hclear⟩ := hrow row hmem
    exact not_le.mp fun hle => hclear (.outOfRange hplace hle)
  case distinct => exact nodup_places h
  case cells =>
    intro place hplace table htable other hother
    obtain ⟨row, hmem, hplace⟩ := mem_places.mp hplace
    obtain ⟨earlier, hclear⟩ := hrow row hmem
    by_contra hnone
    exact hclear (.interrupted hplace htable hother (by simpa using hnone))

end Sound

/-! ## Results -/

/-- A single table is no table of contents. -/
theorem results_single (table : RawTable) : results [table] =
    (table.named table.name >>= fun result => .ok ([result], none)) := rfl

/-- The last one of several tables is the table of contents. -/
theorem results_append {before : List RawTable} (contents : RawTable) (hne : before ≠ []) :
    results (before ++ [contents]) =
      (listed contents before >>= fun reading => .ok (reading.results, reading.engineNanos)) := by
  have hlength : ¬(before ++ [contents]).length = 1 := by
    simpa using hne
  unfold results
  rw [List.getLast?_concat, List.dropLast_concat]
  exact if_neg hlength

theorem listed_of_none {contents : RawTable} (before : List RawTable)
    (h : Contents.of? contents = none) :
    listed contents before = refused "table of contents is missing Ordinal, Kind or Name" := by
  rw [listed, h]

theorem listed_of_some {contents : RawTable} {columns : Contents} (before : List RawTable)
    (h : Contents.of? contents = some columns) :
    listed contents before = contents.rows.foldlM (follow columns) (Reading.start before) := by
  rw [listed, h]
  rfl

theorem result_of_read {payload : List UInt8} {tables : List RawTable}
    (h : read? payload = some tables) : result payload =
      (results tables >>= fun answer => .ok ⟨answer.1, payload.length, answer.2⟩) := by
  rw [result, h]

/-- The contents of a payload whose reading is not a fault: they are sound, or they refuse it. -/
theorem listed_cases {before : List RawTable} {contents : RawTable}
    (hshort : ShortTimes before contents) :
    (∃ columns reading, Sound before contents columns ∧
      listed contents before = .ok reading ∧
        List.Forall₂ (Lists before columns) (contents.rows.filter (listsResult columns))
          reading.results) ∨
    ((∀ columns, ¬Sound before contents columns) ∧
      ∃ detail, listed contents before = refused detail) := by
  cases hcolumns : Contents.of? contents with
  | none =>
    refine Or.inr ⟨fun columns hsound => ?_, _, listed_of_none before hcolumns⟩
    -- sound contents have all three columns
    have hsome := contents_of?_eq_some.mpr ⟨hsound.ordinal, hsound.kind, hsound.name⟩
    rw [hcolumns] at hsome
    cases hsome
  | some columns =>
    rw [listed_of_some before hcolumns]
    rcases foldlM_follow before columns contents.rows with
      ⟨hpasses, reading, hreading, hfollowed⟩ | ⟨earlier, row, later, hrows, hpasses, hstop⟩
    · refine Or.inl ⟨columns, reading, ?_, hreading, hfollowed.results⟩
      exact sound_of_not_misleading hcolumns fun earlier row later hrows =>
        (hpasses earlier row later hrows).1
    · rcases hstop with ⟨hmisleading, hrefused⟩ | ⟨⟨_, seconds, htold, hlong⟩, _⟩
      · refine Or.inr ⟨fun other hsound => ?_, hrefused⟩
        have hother := contents_of?_eq_some.mpr ⟨hsound.ordinal, hsound.kind, hsound.name⟩
        rw [hcolumns, Option.some.injEq] at hother
        subst hother
        exact hsound.not_misleading earlier row later hrows hmisleading
      · -- a time that is too long is none of the times that the contents lead to
        obtain ⟨hstatus, place, table, hplace, _, htable, hseconds⟩ := told?_eq_some.mp htold
        have hmem : row ∈ contents.rows := by
          simp [hrows]
        exact absurd (hshort columns hcolumns row hmem hstatus place hplace table htable seconds
          hseconds) (not_lt.mpr hlong)

/-- The results of a payload with some tables. A table of contents that is sound gives one result
for each of its rows about a result, in their order: the table at its place, under the name that
the row tells. Contents that are not sound give a permanent error and no result. A payload with
a single table brings this table as it is, unless one of its rows is no list of cells. -/
theorem results_listed {payload : List UInt8} {tables : List RawTable}
    (hread : read? payload = some tables) :
    (tables = [] → ∃ answer, result payload = .ok answer ∧ answer.tables = []) ∧
    (∀ table, tables = [table] →
      ((∀ row ∈ table.rows, isCells row = true) → ∃ answer only,
        result payload = .ok answer ∧ answer.tables = [only] ∧ table.Is table.name only) ∧
      ((∃ row ∈ table.rows, isCells row = false) → ∃ detail, result payload = refused detail)) ∧
    (∀ before contents, tables = before ++ [contents] → before ≠ [] →
      ShortTimes before contents →
      (∀ columns, Sound before contents columns → ∃ answer, result payload = .ok answer ∧
        List.Forall₂ (Lists before columns) (contents.rows.filter (listsResult columns))
          answer.tables) ∧
      ((∀ columns, ¬Sound before contents columns) →
        ∃ detail, result payload = refused detail)) := by
  rw [result_of_read hread]
  refine ⟨?_, ?_, ?_⟩
  · rintro rfl
    exact ⟨_, rfl, rfl⟩
  · rintro table rfl
    rw [results_single]
    constructor
    · intro hcells
      obtain ⟨only, hnamed, his⟩ := named_of_cells table.name hcells
      exact ⟨_, only, by rw [hnamed]; rfl, rfl, his⟩
    · rintro ⟨row, hrow, hother⟩
      obtain ⟨detail, hnamed⟩ := named_of_other table.name hrow hother
      exact ⟨detail, by rw [hnamed]; rfl⟩
  · rintro before contents rfl hne hshort
    rw [results_append contents hne]
    rcases listed_cases hshort with
      ⟨columns, reading, hsound, hlisted, hresults⟩ | ⟨hunsound, detail, hlisted⟩
    · refine ⟨fun other hother => ?_, fun hnone => absurd hsound (hnone columns)⟩
      -- the columns of the contents are the first ones of their names, so they are the same
      have hsame : some other = some columns := by
        rw [← contents_of?_eq_some.mpr ⟨hother.ordinal, hother.kind, hother.name⟩,
          ← contents_of?_eq_some.mpr ⟨hsound.ordinal, hsound.kind, hsound.name⟩]
      cases hsame
      exact ⟨_, by rw [hlisted]; rfl, hresults⟩
    · exact ⟨fun columns hsound => absurd hsound (hunsound columns),
        fun _ => ⟨detail, by rw [hlisted]; rfl⟩⟩

/-- The results have the names that the contents tell. -/
theorem names_of_lists {before : List RawTable} {columns : Contents} {rows : List Json}
    {tables : List Table} (h : List.Forall₂ (Lists before columns) rows tables) :
    tables.map Table.name = rows.map fun row => (cellText? row columns.name).getD "" := by
  induction h with
  | nil => rfl
  | cons hrow _ ih =>
    obtain ⟨_, _, _, _, his⟩ := hrow
    rw [List.map_cons, List.map_cons, his.name_eq, ih]

/-- A payload with a result, a status and a table of contents that tells their places as texts. -/
def listedPayload : List UInt8 :=
  ("\x7b\"Tables\":[\x7b\"Columns\":[\x7b\"ColumnName\":\"x\"\x7d],\"Rows\":[[true],[null]]\x7d," ++
    "\x7b\"Columns\":[],\"Rows\":[]\x7d,\x7b\"Columns\":[\x7b\"ColumnName\":\"Ordinal\"\x7d," ++
    "\x7b\"ColumnName\":\"Kind\"\x7d,\x7b\"ColumnName\":\"Name\"\x7d],\"Rows\":" ++
    "[[\"1\",\"QueryStatus\",\"status\"],[\"0\",\"QueryResult\",\"hits\"]]\x7d]\x7d"
  ).toUTF8.data.toList

theorem results_listed_hits : ∃ answer, result listedPayload = .ok answer ∧
    answer.tables.map Table.name = ["hits"] := by
  obtain ⟨tables, hread⟩ : ∃ tables, read? listedPayload = some tables :=
    Option.isSome_iff_exists.mp (by decide +kernel)
  have hfacts : ∀ tables ∈ read? listedPayload, tables.dropLast ≠ [] ∧
      ∃ contents ∈ tables.getLast?, ShortTimes tables.dropLast contents ∧
        ∃ columns ∈ Contents.of? contents, Sound tables.dropLast contents columns ∧
          (contents.rows.filter (listsResult columns)).map
            (fun row => (cellText? row columns.name).getD "") = ["hits"] := by
    decide +kernel
  obtain ⟨hne, contents, hlast, hshort, columns, _, hsound, hnames⟩ := hfacts tables hread
  have hsplit : tables = tables.dropLast ++ [contents] :=
    (List.dropLast_append_getLast? contents hlast).symm
  obtain ⟨answer, hanswer, hlists⟩ :=
    ((results_listed hread).2.2 tables.dropLast contents hsplit hne hshort).1 columns hsound
  exact ⟨answer, hanswer, by rw [names_of_lists hlists, hnames]⟩

/-- A payload with a single table whose last row says that the engine gave up. -/
def interruptedPayload : List UInt8 :=
  ("\x7b\"Tables\":[\x7b\"Columns\":[\x7b\"ColumnName\":\"x\"\x7d]," ++
    "\"Rows\":[[true],\x7b\"Exceptions\":[\"limit\"]\x7d]\x7d]\x7d"
  ).toUTF8.data.toList

/-- A single table need not be a result. -/
theorem single_table_interrupted : ∃ table, read? interruptedPayload = some [table] ∧
    ∀ answer, result interruptedPayload ≠ .ok answer := by
  have hsingle : ∀ tables ∈ read? interruptedPayload, tables.length = 1 := by
    decide +kernel
  have hstop : (result interruptedPayload).isOk = false := by
    decide +kernel
  obtain ⟨tables, hread⟩ : ∃ tables, read? interruptedPayload = some tables :=
    Option.isSome_iff_exists.mp (by decide +kernel)
  obtain ⟨table, rfl⟩ := List.length_eq_one_iff.mp (hsingle tables hread)
  refine ⟨table, hread, fun answer hanswer => ?_⟩
  rw [hanswer] at hstop
  cases hstop

/-! ## Stops -/

/-- Whether following the contents of a payload comes to a time of `2^64` seconds or more. -/
def ComesToLongTime (payload : List UInt8) : Prop :=
  ∃ before contents columns earlier row later, read? payload = some (before ++ [contents]) ∧
    before ≠ [] ∧ Contents.of? contents = some columns ∧
    contents.rows = earlier ++ row :: later ∧ EachRow (Passes before columns) earlier ∧
    TooLong before columns earlier row

theorem result_of_comesToLongTime {payload : List UInt8} (h : ComesToLongTime payload) :
    result payload = .error (.fault .durationOutOfRange) := by
  obtain ⟨before, contents, columns, earlier, row, later, hread, hne, hcolumns, hrows, hpasses,
    hlong⟩ := h
  obtain ⟨reading, hreading, hfollowed⟩ := exists_followed hpasses
  have hlisted : listed contents before = .error (.fault .durationOutOfRange) := by
    rw [listed_of_some before hcolumns, hrows]
    exact foldlM_of_stop hreading (hfollowed.tooLong hlong)
  rw [result_of_read hread, results_append contents hne, hlisted]
  rfl

-- a status that tells `1e300` seconds
example : (match result (
      ("\x7b\"Tables\":[\x7b\"Columns\":[\x7b\"ColumnName\":\"StatusDescription\"\x7d]," ++
        "\"Rows\":[[\"\x7b\\\"ExecutionTime\\\":1e300\x7d\"]]\x7d," ++
        "\x7b\"Columns\":[\x7b\"ColumnName\":\"Ordinal\"\x7d,\x7b\"ColumnName\":\"Kind\"\x7d," ++
        "\x7b\"ColumnName\":\"Name\"\x7d],\"Rows\":[[0,\"QueryStatus\",\"status\"]]\x7d]\x7d"
      ).toUTF8.data.toList) with
    | .ok _ => none
    | .error stop => some stop) = some (.fault .durationOutOfRange) := by decide +kernel

/-- How the reading of a payload ends. -/
theorem result_cases (payload : List UInt8) :
    (∃ answer, result payload = .ok answer ∧
      ∀ nanos ∈ answer.engineNanos, nanos < Nat.pow 2 64 * Nat.pow 10 9) ∨
    (∃ detail, result payload = refused detail) ∨
    (result payload = .error (.fault .durationOutOfRange) ∧ ComesToLongTime payload) := by
  cases hread : read? payload with
  | none => exact Or.inr (Or.inl ⟨_, by rw [result, hread]⟩)
  | some tables =>
    rw [result_of_read hread]
    rcases List.eq_nil_or_concat' tables with rfl | ⟨before, contents, rfl⟩
    · exact Or.inl ⟨_, rfl, fun nanos hnanos => nomatch hnanos⟩
    by_cases hne : before = []
    · -- a single table, which tells no time
      subst hne
      rw [List.nil_append, results_single]
      by_cases hcells : ∀ row ∈ contents.rows, isCells row = true
      · obtain ⟨only, hnamed, _⟩ := named_of_cells contents.name hcells
        exact Or.inl ⟨⟨[only], payload.length, none⟩, by rw [hnamed]; rfl,
          fun nanos hnanos => nomatch hnanos⟩
      · obtain ⟨row, hrow, hother⟩ : ∃ row ∈ contents.rows, isCells row = false := by
          simpa using hcells
        obtain ⟨detail, hnamed⟩ := named_of_other contents.name hrow hother
        exact Or.inr (Or.inl ⟨detail, by rw [hnamed]; rfl⟩)
    rw [results_append contents hne]
    cases hcolumns : Contents.of? contents with
    | none => exact Or.inr (Or.inl ⟨_, by rw [listed_of_none before hcolumns]; rfl⟩)
    | some columns =>
      rw [listed_of_some before hcolumns]
      rcases foldlM_follow before columns contents.rows with
        ⟨_, reading, hreading, hfollowed⟩ | ⟨earlier, row, later, hrows, hpasses, hstop⟩
      · exact Or.inl ⟨_, by rw [hreading]; rfl, hfollowed.inTime⟩
      · rcases hstop with ⟨_, detail, hrefused⟩ | ⟨hlong, hfault⟩
        · exact Or.inr (Or.inl ⟨detail, by rw [hrefused]; rfl⟩)
        · exact Or.inr (Or.inr ⟨by rw [hfault]; rfl, before, contents, columns, earlier, row,
            later, hread, hne, hcolumns, hrows, hpasses, hlong⟩)

theorem ordinal?_lt {row : Json} {column place : Nat} (h : ordinal? row column = some place) :
    place < Nat.pow 2 64 := by
  obtain ⟨value, _, h⟩ := Option.bind_eq_some_iff.mp h
  rcases Option.or_eq_some_iff.mp h with h | ⟨_, h⟩
  · cases value with
    | number n =>
      cases n with
      | natural k =>
        cases h
        exact k.toNat_lt
      | _ => cases h
    | _ => cases h
  · obtain ⟨s, _, h⟩ := Option.bind_eq_some_iff.mp h
    exact of_decide_eq_true (Option.filter_eq_some_iff.mp h).2

/-- Reading a payload ends in a result whose time is a duration, in a permanent error, or, exactly
where it comes to a time that is too long for a duration, in a fault. Places are read as numbers
below `2^64`. -/
theorem stops_iff (payload : List UInt8) :
    (∀ stop, result payload = .error stop →
      (∃ detail, stop = .error (.permanent detail)) ∨ stop = .fault .durationOutOfRange) ∧
    (result payload = .error (.fault .durationOutOfRange) ↔ ComesToLongTime payload) ∧
    (∀ answer, result payload = .ok answer →
      ∀ nanos ∈ answer.engineNanos, nanos < Nat.pow 2 64 * Nat.pow 10 9) ∧
    (∀ row column place, ordinal? row column = some place → place < Nat.pow 2 64) := by
  have hcases := result_cases payload
  refine ⟨?_, ⟨?_, result_of_comesToLongTime⟩, ?_, fun row column place => ordinal?_lt⟩
  · intro stop hstop
    rw [hstop] at hcases
    rcases hcases with ⟨_, h, _⟩ | ⟨detail, h⟩ | ⟨h, _⟩
    · cases h
    · cases h
      exact Or.inl ⟨detail, rfl⟩
    · cases h
      exact Or.inr rfl
  · intro hfault
    rw [hfault] at hcases
    rcases hcases with ⟨_, h, _⟩ | ⟨_, h⟩ | ⟨_, hlong⟩
    · cases h
    · cases h
    · exact hlong
  · intro answer hanswer
    rw [hanswer] at hcases
    rcases hcases with ⟨_, h, hinTime⟩ | ⟨_, h⟩ | ⟨h, _⟩
    · cases h
      exact hinTime
    · cases h
    · cases h

end KustoSearch.Payload
