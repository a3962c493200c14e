import KustoSearch.Proofs.Interval
import KustoSearch.Proofs.Response.Completion
import KustoSearch.Proofs.Response.Faults
import Mathlib.Data.List.Destutter

/-! # Gaps between dates

The keys between two dates step from the start of a bucket to the start of the next one and meet
the later date, because both dates are starts. A level that shows its empty buckets so has one
bucket for every start between its first and its last one, with the results of a row that holds
nothing: `aggregation_stepwise`.
-/

namespace KustoSearch

open Calendar (Instant)

namespace Interval

variable {interval : Interval}

/-- The start of a bucket that begins in the common era. -/
def IsStart (interval : Interval) (s : Instant) : Prop :=
  ∃ k, s = .atMillis (interval.edge k) ∧ originMillis ≤ interval.edge k ∧
    interval.edge k < Instant.endMillis

/-- Whether one start is another one, or the one before it. -/
def StaysOrSteps (interval : Interval) (s t : Instant) : Prop :=
  s = t ∨ interval.next? s = some t

theorem isStart_start (h : interval.Proper) {t : Instant} (ht : InEra t) :
    interval.IsStart (interval.start t) :=
  ⟨_, start_eq h ht, originMillis_le_edge h ht, (edge_number_le h t).trans_lt ht.within⟩

/-- Starts are whole milliseconds that the calendar has. -/
theorem IsStart.ofMillis? {s : Instant} (h : interval.IsStart s) :
    Instant.ofMillis? s.millis = some s := by
  obtain ⟨k, rfl, hsince, hwithin⟩ := h
  rw [Instant.millis_atMillis, Instant.ofMillis?_eq,
    if_pos ⟨minMillis_le_originMillis.trans hsince, hwithin⟩]

/-- Instants of the years that are written with four digits. -/
theorem inEra_of_seconds {t : Instant} (hfrom : -62135596800 ≤ t.seconds)
    (hto : t.seconds ≤ 253402300799) (hnanos : t.nanos < 2000000000) : InEra t := by
  have hend : (253402300801000 : Int) ≤ Instant.endMillis := by decide
  refine ⟨?_, lt_of_lt_of_le ?_ hend⟩
  · simp only [originMillis]
    omega
  · simp only [Instant.millis]
    omega

/-- Outside leap seconds, instants in their order have starts in their order. -/
theorem isChain_start (h : interval.Proper) {instants : List Instant}
    (hera : ∀ t ∈ instants, InEra t) (hregular : ∀ t ∈ instants, t.nanos < 1000000000)
    (hascending : instants.IsChain (· ≤ ·)) :
    (instants.map interval.start).IsChain (· ≤ ·) := by
  induction instants with
  | nil => exact .nil
  | cons t instants ih =>
    have hrest := ih (fun u hu => hera u (List.mem_cons_of_mem _ hu))
      (fun u hu => hregular u (List.mem_cons_of_mem _ hu)) hascending.tail
    cases instants with
    | nil => exact .singleton _
    | cons u instants =>
      have htu := (List.isChain_cons_cons.mp hascending).1
      exact List.isChain_cons_cons.mpr ⟨start_le_start h (hera t (by simp)) (hera u (by simp))
        (hregular t (by simp)) (hregular u (by simp)) htu, hrest⟩

end Interval

namespace Gaps

variable {interval : Interval}

theorem staysOrSteps_of_not_before (h : interval.Proper) {k j : Int} (hkj : k ≤ j)
    (hsince : Interval.originMillis ≤ interval.edge k) {next : Instant}
    (hnext : interval.next? (.atMillis (interval.edge k)) = some next)
    (hnot : ¬ next < Instant.atMillis (interval.edge j)) :
    interval.StaysOrSteps (.atMillis (interval.edge k)) (.atMillis (interval.edge j)) := by
  obtain ⟨_, rfl⟩ := (Interval.next?_edge_eq_some h hsince).mp hnext
  rw [Instant.atMillis_lt_iff, Interval.edge_lt_iff h] at hnot
  obtain rfl | rfl : k = j ∨ j = k + 1 := by omega
  · exact Or.inl rfl
  · exact Or.inr hnext

/-- The starts between two starts lead from the one to the other. -/
theorem dateStarts?_isChain (h : interval.Proper) {k j : Int} (hkj : k ≤ j)
    (hsince : Interval.originMillis ≤ interval.edge k) {room : Nat} {found starts : List Instant}
    (hstarts : dateStarts? interval (.atMillis (interval.edge j)) room
      (.atMillis (interval.edge k)) found = some starts) :
    ∃ between, starts = found.reverse ++ between ∧ (∀ s ∈ between, interval.IsStart s) ∧
      (Instant.atMillis (interval.edge k) :: between ++
        [Instant.atMillis (interval.edge j)]).IsChain interval.StaysOrSteps := by
  induction room generalizing k found with
  | zero =>
    unfold dateStarts? at hstarts
    split at hstarts
    · cases hstarts
    · rename_i next hnext
      split_ifs at hstarts with hbefore
      cases hstarts
      exact ⟨[], by simp, by simp,
        by simpa using staysOrSteps_of_not_before h hkj hsince hnext hbefore⟩
  | succ room ih =>
    unfold dateStarts? at hstarts
    split at hstarts
    · cases hstarts
    · rename_i next hnext
      split_ifs at hstarts with hbefore
      · -- one step further on, the next start stands first among those between
        obtain ⟨hwithin, rfl⟩ := (Interval.next?_edge_eq_some h hsince).mp hnext
        have hlt := (Interval.edge_lt_iff h).mp (Instant.atMillis_lt_iff.mp hbefore)
        have hlater := hsince.trans (Interval.edge_le_edge_succ h k)
        obtain ⟨between, rfl, hbetween, hchain⟩ := ih hlt.le hlater hstarts
        refine ⟨.atMillis (interval.edge (k + 1)) :: between, by simp, ?_, ?_⟩
        · rintro s (_ | ⟨_, hs⟩)
          · exact ⟨k + 1, rfl, hlater, hwithin⟩
          · exact hbetween s hs
        · exact List.isChain_cons_cons.mpr ⟨Or.inr hnext, hchain⟩
      · cases hstarts
        exact ⟨[], by simp, by simp,
          by simpa using staysOrSteps_of_not_before h hkj hsince hnext hbefore⟩

/-- The key of a bucket with its text. -/
def keyOf (bucket : Bucket) : Key := (bucket.1.key, bucket.1.keyAsString)

/-- The places after a start are starts, each the one before it or the next one. -/
theorem Continues.isChain (h : interval.Proper) {field : String}
    {empty : List (String × AggregationResult)} {s : Instant} {later : List Instant}
    {delivered : List Bucket} {entries : List Entry}
    (hplaces : Continues (.date field interval) (dateKey s).1 delivered entries)
    (hkeys : delivered.map keyOf = later.map dateKey)
    (hstarts : ∀ t ∈ s :: later, interval.IsStart t)
    (hascending : (s :: later).IsChain (· ≤ ·)) :
    ∃ starts : List Instant,
      entries.map (fun e => keyOf (e.bucket empty)) = starts.map dateKey ∧
      (∀ t ∈ starts, interval.IsStart t) ∧ (s :: starts).IsChain interval.StaysOrSteps := by
  -- by induction on the places, with the start of the bucket before them carried along
  generalize hprev : (dateKey s).1 = prev at hplaces
  induction hplaces generalizing s later with
  | nil => exact ⟨[], rfl, by simp, .singleton s⟩
  | @cons prev bucket keys delivered entries hbetween hplaces ih =>
    cases later with
    | nil => simp at hkeys
    | cons t later =>
      rw [List.map_cons, List.map_cons, List.cons.injEq] at hkeys
      obtain ⟨hkey, hkeys⟩ := hkeys
      have hbucket : bucket.1.key = (dateKey t).1 := congrArg Prod.fst hkey
      obtain ⟨hst, hascending⟩ := List.isChain_cons_cons.mp hascending
      obtain ⟨starts, hrest, hlater, hchain⟩ := ih hkeys
        (fun u hu => hstarts u (List.mem_cons_of_mem _ hu)) hascending hbucket.symm
      have hs := hstarts s (by simp)
      have ht := hstarts t (by simp)
      obtain ⟨limit, hbetween⟩ := hbetween
      rw [← hprev, hbucket, between?,
        dateGap?_dateKey interval hs.ofMillis? ht.ofMillis?] at hbetween
      obtain ⟨found, hfound, rfl⟩ := Option.map_eq_some_iff.mp hbetween
      -- both starts are edges, so that the ones between them are counted by their numbers
      obtain ⟨k, rfl, hsince, _⟩ := hs
      obtain ⟨j, rfl, _, _⟩ := id ht
      rw [Instant.atMillis_le_iff (Instant.nanos_atMillis_lt _), Instant.millis_atMillis,
        Interval.edge_le_iff h] at hst
      obtain ⟨_, rfl, hnew, hsteps⟩ := dateStarts?_isChain h hst hsince hfound
      refine ⟨found ++ .atMillis (interval.edge j) :: starts, ?_, ?_, ?_⟩
      · rw [List.map_append, List.map_append, List.map_cons, List.map_cons, hrest, List.map_map,
          List.map_map]
        exact congrArg₂ (· ++ ·) rfl (congrArg (· :: _) hkey)
      · intro u hu
        rcases List.mem_append.mp hu with hu | hu
        · exact hnew u hu
        · rcases List.mem_cons.mp hu with rfl | hu
          · exact ht
          · exact hlater u hu
      · exact List.isChain_cons_split.mpr ⟨hsteps, hchain⟩

/-- Filling the gaps between starts leaves starts, each the one before it or the next one. -/
theorem isChain_of_fill? (h : interval.Proper) {field : String}
    {empty : List (String × AggregationResult)} {starts : List Instant}
    {delivered shown : List Bucket}
    (hfill : fill? (.date field interval) empty delivered = some shown)
    (hkeys : delivered.map keyOf = starts.map dateKey)
    (hstarts : ∀ t ∈ starts, interval.IsStart t) (hascending : starts.IsChain (· ≤ ·)) :
    ∃ all : List Instant, shown.map keyOf = all.map dateKey ∧ (∀ t ∈ all, interval.IsStart t) ∧
      all.IsChain interval.StaysOrSteps := by
  obtain ⟨entries, hplaces, _, rfl⟩ := fill?_eq_some.mp hfill
  rw [List.map_map]
  cases hplaces with
  | nil => exact ⟨[], rfl, by simp, .nil⟩
  | @cons bucket delivered entries hplaces =>
    cases starts with
    | nil => simp at hkeys
    | cons s later =>
      rw [List.map_cons, List.map_cons, List.cons.injEq] at hkeys
      have hbucket : bucket.1.key = (dateKey s).1 := congrArg Prod.fst hkeys.1
      rw [hbucket] at hplaces
      obtain ⟨all, hall, hlater, hchain⟩ := hplaces.isChain h hkeys.2 hstarts hascending
      refine ⟨s :: all, ?_, ?_, hchain⟩
      · rw [List.map_cons, List.map_cons, ← hall, ← hkeys.1]
        rfl
      · rintro t (_ | ⟨_, ht⟩)
        · exact hstarts s (by simp)
        · exact hlater t ht

end Gaps

/-! ## Equal neighbours -/

section Destutter

variable {α : Type} [DecidableEq α] {r : α → α → Prop}

theorem head?_destutter' (a : α) (as : List α) :
    (as.destutter' (· ≠ ·) a).head? = some a := by
  induction as generalizing a with
  | nil => rfl
  | cons b as ih =>
    by_cases h : a = b
    · subst h
      rw [List.destutter'_cons_neg (h := by simp), ih]
    · rw [List.destutter'_cons_pos (h := h)]
      rfl

theorem isChain_destutter' {a : α} {as : List α}
    (h : (a :: as).IsChain fun a b => a = b ∨ r a b) : (as.destutter' (· ≠ ·) a).IsChain r := by
  induction as generalizing a with
  | nil => exact .singleton a
  | cons b as ih =>
    obtain ⟨hab, hrest⟩ := List.isChain_cons_cons.mp h
    by_cases heq : a = b
    · subst heq
      rw [List.destutter'_cons_neg (h := by simp)]
      exact ih hrest
    · rw [List.destutter'_cons_pos (h := heq)]
      refine List.isChain_cons.mpr ⟨fun c hc => ?_, ih hrest⟩
      rw [head?_destutter', Option.mem_some] at hc
      exact hc ▸ hab.resolve_left heq

/-- Without equal neighbours, what stays or steps steps. -/
theorem isChain_destutter {as : List α} (h : as.IsChain fun a b => a = b ∨ r a b) :
    (as.destutter (· ≠ ·)).IsChain r := by
  cases as with
  | nil => exact .nil
  | cons a as => exact isChain_destutter' h

end Destutter

namespace Mapper

/-! ## Keys of rows -/

variable {plan : BucketPlan} {children : List AggregationPlan} {level : Nat} {path : List Json}

/-- Whether a row has an instant as its key. -/
def KeyInstant (rows : LevelRows) (row : Row) (t : Instant) : Prop :=
  ∃ s, row[rows.keyIndex]? = some (.string s) ∧ Calendar.instant? s = some t

/-- A bucket in a column of dates has the start of its row's instant as its key. -/
theorem keyOf_bucketHead {field : String} {interval : Interval} {rows : LevelRows} {row : Row}
    {t : Instant} {head : BucketHead} {raw : Json} (hkey : plan.key = .date field interval)
    (htype : (rows.table.columns[rows.keyIndex]?).map Column.type = some .timestamp)
    (ht : KeyInstant rows row t) (h : bucketHead plan rows row = .ok (head, raw)) :
    (head.key, head.keyAsString) = Gaps.dateKey (interval.start t) := by
  obtain ⟨s, hcell, ht⟩ := ht
  obtain ⟨column, hcolumn, htype⟩ := Option.map_eq_some_iff.mp htype
  obtain ⟨raw, hraw, h⟩ := Outcome.bind_eq_ok.mp h
  rw [cell_eq_ok, hcell] at hraw
  cases hraw
  simp only [hcolumn] at h
  obtain ⟨type, hsame, h⟩ := Outcome.bind_eq_ok.mp h
  cases hsame
  obtain ⟨shown, hkeyOf, h⟩ := Outcome.bind_eq_ok.mp h
  -- the key was read, so the interval is not the one in which nothing has a start
  have hne : interval ≠ .fixed 0 := by
    rintro rfl
    have hnone : (Interval.fixed 0).start? t = none := Interval.start?_eq_none.mpr rfl
    simp [Cell.bucketKey, Json.isNull, Json.string?, htype, ht, hkey, hnone] at hkeyOf
  have hshown : Cell.bucketKey rows.table.name plan.name .timestamp plan.key (.string s) =
      .ok (Gaps.dateKey (interval.start t)) := by
    simp [Cell.bucketKey, Json.isNull, Json.string?, ht, hkey, Gaps.dateKey,
      Interval.start?_eq_start hne]
  rw [htype, hshown] at hkeyOf
  cases hkeyOf
  obtain ⟨value, _, h⟩ := Outcome.bind_eq_ok.mp h
  split at h
  · cases h
    rfl
  · cases h

/-- The buckets that are delivered in a column of dates have the starts of their rows' instants as
their keys. -/
theorem map_keyOf_delivered {field : String} {interval : Interval} {rows : LevelRows}
    {taken : List Row} {instants : List Instant} {levels middle after : Levels}
    {delivered : List Bucket} (hkey : plan.key = .date field interval)
    (htake : (takeRows plan.name level path).run levels = .ok ((rows, taken), middle))
    (htype : (rows.table.columns[rows.keyIndex]?).map Column.type = some .timestamp)
    (hinstants : List.Forall₂ (KeyInstant rows) taken instants)
    (h : (deliveredBuckets plan children level path).run levels = .ok (delivered, after)) :
    delivered.map Gaps.keyOf = (instants.map interval.start).map Gaps.dateKey := by
  obtain ⟨_, _, hsame, hrun⟩ := Outcome.run_bind_eq_ok.mp h
  rw [htake] at hsame
  cases hsame
  have hbuckets := Outcome.forall₂_of_run_mapM hrun
  clear h hrun htake
  induction hinstants generalizing delivered with
  | nil =>
    cases hbuckets
    rfl
  | cons ht _ ih =>
    cases hbuckets with
    | cons hbucket hbuckets =>
      obtain ⟨u, v, hbucket⟩ := hbucket
      obtain ⟨⟨head, raw⟩, _, hhead, hbucket⟩ := Outcome.run_bind_eq_ok.mp hbucket
      obtain ⟨results, _, _, hbucket⟩ := Outcome.run_bind_eq_ok.mp hbucket
      obtain ⟨rfl, _⟩ := Outcome.run_pure_eq_ok.mp hbucket
      have hown := keyOf_bucketHead hkey htype ht (Outcome.run_lift_eq_ok.mp hhead).1
      rw [List.map_cons, List.map_cons, List.map_cons, ih hbuckets]
      exact congrArg (· :: _) hown

/-! ## Rows that hold nothing -/

/-- Whether the cells of some metrics are all null in a row. -/
def NullMetrics (table : Table) (row : Row) (plans : List AggregationPlan) : Prop :=
  ∀ m ∈ AggregationPlan.metrics plans, ∀ c ∈ m.columns, ∃ i,
    table.columnIndex? c.column = some i ∧ row[i]? = some .null

/-- Whether no level of some plans has rows below a path. -/
def NothingBelow (levels : Levels) (path : List Json) : Nat → List AggregationPlan → Prop
  | _, [] => True
  | level, .metric _ :: plans => NothingBelow levels path level plans
  | level, .bucket plan children :: plans =>
    (∃ rows, levels[level]? = some rows ∧ groupKey path ∉ rows.groups.map Prod.fst) ∧
      NothingBelow levels path (level + (AggregationPlan.bucket plan children).levelCount) plans

theorem metric_null (table : String) (column : Column) :
    Cell.metric table column .null = .ok .none := by
  obtain ⟨name, type⟩ := column
  cases type <;> rfl

/-- A metric without values has the result that it has without documents. -/
theorem metricResult_null {plan : MetricPlan} {table : Table} {row : Row}
    (h : ∀ c ∈ plan.columns, ∃ i, table.columnIndex? c.column = some i ∧ row[i]? = some .null) :
    metricResult plan table row = .ok (emptyMetric plan) := by
  refine Outcome.bind_eq_ok.mpr ⟨plan.columns.map fun c => (c.role, .none), ?_, rfl⟩
  rw [Outcome.mapM_eq_ok, List.forall₂_map_right_iff, List.forall₂_same]
  intro c hc
  obtain ⟨i, hi, hnull⟩ := h c hc
  have hcolumn := List.getElem?_eq_getElem (lt_of_columnIndex? hi)
  refine Outcome.bind_eq_ok.mpr ⟨i, requireColumn_eq_ok.mpr hi, ?_⟩
  refine Outcome.bind_eq_ok.mpr ⟨.null, cell_eq_ok.mpr hnull, ?_⟩
  simp only [hcolumn, metric_null]
  rfl

theorem takeGroup_of_not_mem {key : String} {groups : List Group}
    (h : key ∉ groups.map Prod.fst) : takeGroup key groups = ([], groups) := by
  induction groups with
  | nil => rfl
  | cons g groups ih =>
    obtain ⟨k, rows⟩ := g
    rw [List.map_cons, List.mem_cons, not_or] at h
    rw [takeGroup, if_neg (Ne.symm h.1), ih h.2]

/-- A level without rows below a path gives no buckets and stays as it is. -/
theorem run_bucket_of_not_mem {levels : Levels} {rows : LevelRows}
    (hrows : levels[level]? = some rows) (h : groupKey path ∉ rows.groups.map Prod.fst)
    (table : Table) (row : Row) :
    (aggregation level path table row (.bucket plan children)).run levels =
      .ok (.buckets [], levels) := by
  have hset : levels.set level rows = levels := by
    obtain ⟨hlt, rfl⟩ := List.getElem?_eq_some_iff.mp hrows
    exact List.set_getElem_self hlt
  have htake : (takeRows plan.name level path).run levels = .ok ((rows, []), levels) := by
    refine Outcome.run_bind_eq_ok.mpr ⟨levels, levels, rfl, ?_⟩
    simp only [hrows, takeGroup_of_not_mem h]
    exact congrArg (fun l => Except.ok ((rows, []), l)) hset
  have hdelivered : (deliveredBuckets plan children level path).run levels = .ok ([], levels) :=
    Outcome.run_bind_eq_ok.mpr ⟨(rows, []), levels, htake, rfl⟩
  have hfinish : finish plan children [] = .ok (.buckets []) := by
    refine finish_eq_ok.mpr ?_
    by_cases hshown : plan.minDocCount = 0
    · exact Or.inr ⟨hshown, Gaps.overlong_nil _, [], rfl, rfl⟩
    · exact Or.inl ⟨hshown, rfl⟩
  rw [run_bucket _ _ hdelivered, hfinish]
  rfl

/-- The result of an aggregation in an empty bucket. -/
def emptyResult : AggregationPlan → AggregationResult
  | .metric plan => emptyMetric plan
  | .bucket _ _ => .buckets []

theorem emptyResults_eq (plans : List AggregationPlan) :
    emptyResults plans = membersOf (plans.map fun plan => (plan.name, emptyResult plan)) := by
  refine congrArg membersOf (List.map_congr_left fun plan _ => ?_)
  cases plan <;> rfl

/-- A row without values, and with nothing below its path, has the results of an empty bucket. -/
theorem aggregations_of_nothing {table : Table} {row : Row} {levels : Levels}
    {plans : List AggregationPlan} (hnull : NullMetrics table row plans)
    (hbelow : NothingBelow levels path level plans) :
    ∃ results, (aggregations level path table row plans).run levels = .ok (results, levels) ∧
      membersOf results = emptyResults plans := by
  refine ⟨plans.map fun plan => (plan.name, emptyResult plan), ?_, (emptyResults_eq plans).symm⟩
  induction plans generalizing level with
  | nil => rfl
  | cons plan plans ih =>
    -- each plan has its empty result, and leaves the levels to the plans after it
    have hcons : (aggregation level path table row plan).run levels =
        .ok (emptyResult plan, levels) → NullMetrics table row plans →
        NothingBelow levels path (level + plan.levelCount) plans →
        (aggregations level path table row (plan :: plans)).run levels =
          .ok ((plan :: plans).map fun plan => (plan.name, emptyResult plan), levels) := by
      intro hgiven hnull hbelow
      rw [aggregations]
      exact Outcome.run_bind_eq_ok.mpr ⟨_, levels, hgiven,
        Outcome.run_bind_eq_ok.mpr ⟨_, levels, ih hnull hbelow, rfl⟩⟩
    cases plan with
    | metric m =>
      refine hcons ?_ (fun m' hm' => hnull m' (List.mem_cons_of_mem _ hm')) hbelow
      rw [aggregation]
      exact Outcome.run_lift_eq_ok.mpr
        ⟨metricResult_null (hnull m (by simp [AggregationPlan.metrics])), rfl⟩
    | bucket plan children =>
      obtain ⟨⟨rows, hrows, hgroup⟩, hbelow⟩ := hbelow
      exact hcons (run_bucket_of_not_mem hrows hgroup table row) hnull hbelow

/-! ## Levels that show their empty buckets -/

/-- A level of dates that shows its empty buckets, from rows in the order of their keys. The
buckets that are delivered are shown in their order and as they are. The keys of all buckets are
starts of the interval, and without equal neighbours each is the next start after the one before
it. What is between them has no documents, and the results of any row that holds no value and has
nothing below it. -/
theorem aggregation_stepwise {s : String} {interval : Interval} {field : String}
    {table : Table} {row : Row} {rows : LevelRows} {taken : List Row} {instants : List Instant}
    {levels middle after : Levels} {given : AggregationResult}
    (hread : Interval.parse? s = some interval) (hkey : plan.key = .date field interval)
    (hshown : plan.minDocCount = 0)
    (htake : (takeRows plan.name level path).run levels = .ok ((rows, taken), middle))
    (htype : (rows.table.columns[rows.keyIndex]?).map Column.type = some .timestamp)
    (hinstants : List.Forall₂ (KeyInstant rows) taken instants)
    (hera : ∀ t ∈ instants, Interval.InEra t)
    (hascending : (instants.map interval.start).IsChain (· ≤ ·))
    (hrun : (aggregation level path table row (.bucket plan children)).run levels =
      .ok (given, after)) :
    (∀ t ∈ instants, interval.start? t = some (interval.start t)) ∧
    ∃ (delivered shown : List Bucket) (starts : List Instant),
      given = .buckets shown ∧
      (aggregation level path table row
        (.bucket { plan with minDocCount := 1 } children)).run levels =
          .ok (.buckets delivered, after) ∧
      delivered.map Gaps.keyOf = (instants.map interval.start).map Gaps.dateKey ∧
      Gaps.Fills (emptyResults children) delivered shown ∧
      shown.map Gaps.keyOf = starts.map Gaps.dateKey ∧
      (∀ t ∈ starts, Instant.ofMillis? t.millis = some t) ∧
      (starts.destutter (· ≠ ·)).IsChain (fun t u => interval.next? t = some u) ∧
      ∀ {table : Table} {row : Row} {path : List Json} {levels : Levels},
        NullMetrics table row children → NothingBelow levels path (level + 1) children →
        ∃ results,
          (aggregations (level + 1) path table row children).run levels = .ok (results, levels) ∧
            membersOf results = emptyResults children := by
  have hproper := Interval.proper_of_parse? hread
  rw [aggregation_bucket] at hrun
  obtain ⟨delivered, last, hdelivered, hrun⟩ := Outcome.run_bind_eq_ok.mp hrun
  obtain ⟨hfinish, rfl⟩ := Outcome.run_lift_eq_ok.mp hrun
  refine ⟨fun t _ => Interval.start?_eq_start hproper.ne_fixed_zero t, ?_⟩
  rcases finish_eq_ok.mp hfinish with ⟨hne, _⟩ | ⟨_, _, shown, hfill, rfl⟩
  · exact absurd hshown hne
  · have hkeys := map_keyOf_delivered hkey htake htype hinstants hdelivered
    have hstarts : ∀ t ∈ instants.map interval.start, interval.IsStart t := by
      intro t ht
      obtain ⟨u, hu, rfl⟩ := List.mem_map.mp ht
      exact Interval.isStart_start hproper (hera u hu)
    rw [hkey] at hfill
    obtain ⟨starts, hall, hon, hchain⟩ :=
      Gaps.isChain_of_fill? hproper hfill hkeys hstarts hascending
    exact ⟨delivered, shown, starts, rfl, run_bucket table row hdelivered, hkeys,
      Gaps.fills_of_fill? hfill, hall, fun t ht => (hon t ht).ofMillis?, isChain_destutter hchain,
      aggregations_of_nothing⟩

/-- Buckets of a month each with the sum of a field, empty ones shown. -/
def monthsPlan : BucketPlan := ⟨"m", .date "at" .month, .keyAsc, none, 0⟩
def monthsChildren : List AggregationPlan :=
  [.metric ⟨"total", .sum, [⟨.value, "total", .sum "bytes"⟩]⟩]

/-- January and March 2024. -/
def monthsLevel : LevelRows :=
  let rows := [[.string "2024-01-01T00:00:00Z", Json.ofNat 2, Json.ofNat 7],
    [.string "2024-03-01T00:00:00Z", Json.ofNat 1, Json.ofNat 5]]
  ⟨⟨"agg0", [⟨"m", .timestamp⟩, ⟨"doc_count", .number⟩, ⟨"total", .number⟩], rows⟩, 0, 1,
    [("[]", rows)]⟩

def january : Instant := ⟨1704067200, 0⟩
def february : Instant := ⟨1706745600, 0⟩
def march : Instant := ⟨1709251200, 0⟩

/-- The bucket of a month. -/
def monthBucket (t : Instant) (docCount total : Nat) : Bucket :=
  (⟨(Gaps.dateKey t).1, (Gaps.dateKey t).2, docCount⟩, [("total", .single (Json.ofNat total) none)])

theorem run_monthsLevel :
    (aggregation 0 [] noTable [] (.bucket monthsPlan monthsChildren)).run [monthsLevel] =
      .ok (.buckets [monthBucket january 2 7, monthBucket february 0 0, monthBucket march 1 5],
        [{ monthsLevel with groups := [] }]) := by
  have hdelivered : (deliveredBuckets monthsPlan monthsChildren 0 []).run [monthsLevel] =
      .ok ([monthBucket january 2 7, monthBucket march 1 5],
        [{ monthsLevel with groups := [] }]) := by rfl
  have hbetween : Gaps.Between monthsPlan.key (monthBucket january 2 7).1.key
      (monthBucket march 1 5).1.key [Gaps.dateKey february] := by
    have hstarts : Gaps.dateStarts? .month march 1 january [] = some [february] := by decide
    exact Gaps.between_dateKey (t := january) (u := march) (by decide) (by decide) hstarts
  have hplaces : Gaps.Completes monthsPlan.key [monthBucket january 2 7, monthBucket march 1 5]
      [.delivered (monthBucket january 2 7), .inserted (Gaps.dateKey february),
        .delivered (monthBucket march 1 5)] := .cons (.cons hbetween (.nil _))
  have hfill : Gaps.fill? monthsPlan.key (emptyResults monthsChildren)
      [monthBucket january 2 7, monthBucket march 1 5] =
      some [monthBucket january 2 7, monthBucket february 0 0, monthBucket march 1 5] :=
    Gaps.fill?_eq_some.mpr
      ⟨_, hplaces, hplaces.fits_of_length_le (by simp [Gaps.maxBuckets]), rfl⟩
  rw [run_bucket _ _ hdelivered, finish_eq_ok.mpr (Or.inr ⟨rfl, rfl, _, hfill, rfl⟩)]
  rfl

/-- February stands between January and March, with the results of a row without values. -/
theorem aggregation_stepwise_months :
    Interval.parse? "1M" = some .month ∧
    (takeRows "m" 0 []).run [monthsLevel] =
      .ok ((monthsLevel, monthsLevel.table.rows), [{ monthsLevel with groups := [] }]) ∧
    List.Forall₂ (KeyInstant monthsLevel) monthsLevel.table.rows [january, march] ∧
    (∀ t ∈ [january, march], Interval.InEra t) ∧
    ([january, march].map Interval.month.start).IsChain (· ≤ ·) ∧
    ∃ starts : List Instant,
      [monthBucket january 2 7, monthBucket february 0 0, monthBucket march 1 5].map Gaps.keyOf =
        starts.map Gaps.dateKey ∧
      (starts.destutter (· ≠ ·)).IsChain (fun t u => Interval.month.next? t = some u) ∧
      ∃ results, (aggregations 1 [.string "2024-05-01T00:00:00Z"] monthsLevel.table
        [.string "2024-05-01T00:00:00Z", Json.ofNat 0, .null] monthsChildren).run [] =
          .ok (results, []) ∧ membersOf results = (monthBucket february 0 0).2 := by
  have hread : Interval.parse? "1M" = some .month := by decide
  have htake : (takeRows monthsPlan.name 0 []).run [monthsLevel] =
      .ok ((monthsLevel, monthsLevel.table.rows), [{ monthsLevel with groups := [] }]) := by rfl
  have hinstants : List.Forall₂ (KeyInstant monthsLevel) monthsLevel.table.rows [january, march] :=
    .cons ⟨_, rfl, by decide⟩ (.cons ⟨_, rfl, by decide⟩ .nil)
  have hera : ∀ t ∈ [january, march], Interval.InEra t := by
    simp only [List.forall_mem_cons, List.not_mem_nil, false_implies, implies_true, and_true]
    exact ⟨Interval.inEra_of_seconds (by decide) (by decide) (by decide),
      Interval.inEra_of_seconds (by decide) (by decide) (by decide)⟩
  have hascending := Interval.isChain_start (Interval.proper_of_parse? hread) hera
    (by decide) (List.isChain_pair.mpr (Instant.le_iff.mpr (by decide)))
  obtain ⟨_, delivered, shown, starts, hgiven, _, _, _, hkeys, _, hchain, hnothing⟩ :=
    aggregation_stepwise hread (show monthsPlan.key = .date "at" .month from rfl) rfl htake rfl
      hinstants hera hascending run_monthsLevel
  cases hgiven
  refine ⟨hread, htake, hinstants, hera, hascending, starts, hkeys, hchain, ?_⟩
  refine hnothing (fun m hm c hc => ?_) trivial
  obtain rfl := List.mem_singleton.mp hm
  obtain rfl := List.mem_singleton.mp hc
  exact ⟨2, rfl, rfl⟩

end Mapper

end KustoSearch
