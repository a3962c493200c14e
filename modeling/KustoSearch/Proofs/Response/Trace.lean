import KustoSearch.Proofs.Response.Gaps
import KustoSearch.Proofs.Response.Levels

/-! # How results come about

A `Trace` is a result with the rows that its buckets were made of. Every walk over the levels has
a trace, which says which paths were visited and which rows were taken: `aggregation_walk`.
-/

namespace KustoSearch.Mapper

/-- The result of an aggregation with the rows that it was made of. -/
inductive Trace where
  /-- A result that no level was visited for. -/
  | leaf (result : AggregationResult)
  /-- The buckets below a path. Each has its row, unless it was inserted, and the traces of its
  sub-aggregations. -/
  | buckets (level : Nat) (path : List Json)
      (items : List (Option Row × BucketHead × List (String × Trace)))

/-- A bucket with its row and its traces. -/
abbrev TracedBucket := Option Row × BucketHead × List (String × Trace)

namespace Trace

mutual

/-- The result. -/
def result : Trace → AggregationResult
  | .leaf result => result
  | .buckets _ _ items => .buckets (shown items)

/-- The buckets as they are shown; of two results with one name the later stays. -/
def shown : List (Option Row × BucketHead × List (String × Trace)) → List Bucket
  | [] => []
  | (_, head, below) :: items => (head, membersOf (named below)) :: shown items

/-- Results under their names. -/
def named : List (String × Trace) → List (String × AggregationResult)
  | [] => []
  | (name, trace) :: traces => (name, trace.result) :: named traces

end

/-- The rows of some buckets. -/
def ownRows (items : List TracedBucket) : List Row := items.filterMap Prod.fst

mutual

/-- The paths that were visited, each with its level. -/
def visits : Trace → List (Nat × List Json)
  | .leaf _ => []
  | .buckets level path items => (level, path) :: visitsBelow items

/-- The paths that were visited below some buckets. -/
def visitsBelow : List (Option Row × BucketHead × List (String × Trace)) → List (Nat × List Json)
  | [] => []
  | (_, _, below) :: items => visitsOfAll below ++ visitsBelow items

/-- The paths that some traces visited. -/
def visitsOfAll : List (String × Trace) → List (Nat × List Json)
  | [] => []
  | (_, trace) :: traces => trace.visits ++ visitsOfAll traces

end

mutual

/-- The rows that were made buckets, each with its level. -/
def rows : Trace → List (Nat × Row)
  | .leaf _ => []
  | .buckets level _ items => (ownRows items).map (level, ·) ++ rowsBelow items

/-- The rows that were made buckets below some buckets. -/
def rowsBelow : List (Option Row × BucketHead × List (String × Trace)) → List (Nat × Row)
  | [] => []
  | (_, _, below) :: items => rowsOfAll below ++ rowsBelow items

/-- The rows of some traces. -/
def rowsOfAll : List (String × Trace) → List (Nat × Row)
  | [] => []
  | (_, trace) :: traces => trace.rows ++ rowsOfAll traces

end

theorem mem_rowsBelow {t : Nat × Row} {items : List TracedBucket} :
    t ∈ rowsBelow items ↔ ∃ item ∈ items, t ∈ rowsOfAll item.2.2 := by
  induction items with
  | nil => simp [rowsBelow]
  | cons item items ih =>
    obtain ⟨row, head, below⟩ := item
    rw [rowsBelow, List.mem_append, ih]
    simp

end Trace

/-- The traces of the sub-aggregations of an inserted bucket. -/
def emptyTraces (children : List AggregationPlan) : List (String × Trace) :=
  children.map fun
    | .metric plan => (plan.name, .leaf (emptyMetric plan))
    | .bucket plan _ => (plan.name, .leaf (.buckets []))

/-- Whether the metrics among some aggregations can be read from a row. -/
def MetricsReady (plans : List AggregationPlan) (table : Table) (row : Row) : Prop :=
  ∀ m ∈ AggregationPlan.metrics plans, ∃ given, metricResult m table row = .ok given

section Follows

variable (layout : Layout) (result : Result)

/-- Whether a table is what a level of the layout is read from. -/
def LevelOf (level : Nat) (table : BucketTable) (rows : LevelRows) : Prop :=
  layout.buckets[level]? = some table ∧ levelRows result table = .ok rows

mutual

/-- Whether a trace is one of an aggregation whose buckets are read from a level on, below a path:
the rows of the buckets stand in the order of the table and have the path as the keys of their
ancestors, the metrics of a bucket are read from its row, and what is below a bucket is below the
path that its own key ends. -/
def Follows (level : Nat) (path : List Json) : AggregationPlan → Trace → Prop
  | .metric _, .leaf _ => True
  | .bucket plan children, .buckets level' path' items =>
    level' = level ∧ path' = path ∧ ∃ table rows, LevelOf layout result level table rows ∧
      (Trace.ownRows items).Sublist rows.table.rows ∧
      ∀ item ∈ items, match item.1 with
        | some row => values rows.table (ancestorColumns table) row = path ∧
          MetricsReady children rows.table row ∧ ∃ raw, bucketHead plan rows row = .ok (item.2.1, raw) ∧
            FollowsAll (level + 1) (path ++ [raw]) children item.2.2
        | none => plan.minDocCount = 0 ∧ item.2.1.docCount = 0 ∧ item.2.2 = emptyTraces children
  | _, _ => False

/-- Whether some traces are those of aggregations whose levels follow one another. -/
def FollowsAll (level : Nat) (path : List Json) :
    List AggregationPlan → List (String × Trace) → Prop
  | [], [] => True
  | plan :: plans, (name, trace) :: traces =>
    name = plan.name ∧ Follows level path plan trace ∧
      FollowsAll (level + plan.levelCount) path plans traces
  | _, _ => False

end

end Follows

/-! ## Walks -/

/-- Levels that some paths have been taken out of. -/
def LevelsOf (layout : Layout) (result : Result) (levels : Levels) : Prop :=
  ∀ level rows, levels[level]? = some rows → ∃ table original gone,
    LevelOf layout result level table original ∧ rows = original.without gone

/-- Levels as they are read have no paths taken out. -/
theorem levelsOf_of_mapM {layout : Layout} {result : Result} {levels : Levels}
    (h : layout.buckets.mapM (levelRows result) = .ok levels) : LevelsOf layout result levels := by
  intro level rows hrows
  rcases getElem?_of_forall₂ (Outcome.mapM_eq_ok.mp h) level with
    ⟨_, hnone⟩ | ⟨table, r, htable, hr, hlevel⟩
  · rw [hnone] at hrows
    cases hrows
  · rw [hrows, Option.some.injEq] at hr
    subst hr
    exact ⟨table, rows, [], ⟨htable, hlevel⟩, rows.without_nil.symm⟩

/-- What a walk did to the levels: some paths were taken out, and some rows with them. -/
structure Walked (levels after : Levels) (visits : List (Nat × List Json))
    (taken : List (Nat × Row)) : Prop where
  after : after = without levels visits
  rows : ∀ level rows, levels[level]? = some rows →
    (held rows.groups).Perm
      (held (rows.without (ofLevel level visits)).groups ++ ofLevel level taken)

theorem walked_refl (levels : Levels) : Walked levels levels [] [] := by
  refine ⟨(without_nil levels).symm, fun level rows _ => ?_⟩
  simp [rows.without_nil]

theorem Walked.trans {a b c : Levels} {v v' : List (Nat × List Json)} {r r' : List (Nat × Row)}
    (h : Walked a b v r) (h' : Walked b c v' r') : Walked a c (v ++ v') (r ++ r') := by
  refine ⟨?_, fun level rows hrows => ?_⟩
  · rw [h'.after, h.after, without_append]
  · have hfirst := h.rows level rows hrows
    have hnext : b[level]? = some (rows.without (ofLevel level v)) := by
      rw [h.after, getElem?_without, hrows]
      rfl
    have hsecond := h'.rows level _ hnext
    rw [rows.without_append] at hsecond
    rw [ofLevel_append, ofLevel_append]
    refine hfirst.trans ((hsecond.append_right _).trans ?_)
    rw [List.append_assoc]
    exact List.Perm.append_left _ List.perm_append_comm

/-- Taking the rows of a path is a walk that takes them. -/
theorem walked_takeRows {name : String} {level : Nat} {path : List Json} {levels after : Levels}
    {rows : LevelRows} {taken : List Row}
    (hdistinct : ∀ r ∈ levels, (r.groups.map Prod.fst).Nodup)
    (h : (takeRows name level path).run levels = .ok ((rows, taken), after)) :
    Walked levels after [(level, path)] (taken.map (level, ·)) := by
  obtain ⟨hlevel, htaken, hafter⟩ := takeRows_eq_ok hdistinct h
  refine ⟨hafter, fun i r hr => ?_⟩
  by_cases hi : i = level
  · subst hi
    obtain rfl : rows = r := by
      rw [hlevel, Option.some.injEq] at hr
      exact hr
    have hrows : ofLevel i (taken.map (i, ·)) = taken := by
      simp [ofLevel, List.filterMap_map]
    have hpath : ofLevel i [(i, path)] = [path] := by simp [ofLevel]
    have hgroups : (rows.without [path]).groups = (takeGroup (groupKey path) rows.groups).2 := by
      rw [takeGroup_eq (hdistinct rows (List.mem_of_getElem? hlevel))]
      simp [LevelRows.without]
    rw [hrows, hpath, hgroups, htaken]
    exact held_takeGroup _ _
  · have hrows : ofLevel i (taken.map (level, ·)) = [] := by
      simp [ofLevel, List.filterMap_map, Ne.symm hi]
    have hpath : ofLevel i [(level, path)] = [] := by simp [ofLevel, Ne.symm hi]
    rw [hrows, hpath, r.without_nil, List.append_nil]

/-- The state of a walk stays made of the levels. -/
theorem LevelsOf.without {layout : Layout} {result : Result} {levels : Levels}
    (h : LevelsOf layout result levels) (visits : List (Nat × List Json)) :
    LevelsOf layout result (without levels visits) := by
  intro level rows hrows
  rw [getElem?_without] at hrows
  obtain ⟨before, hbefore, rfl⟩ := Option.map_eq_some_iff.mp hrows
  obtain ⟨table, original, gone, hlevel, rfl⟩ := h level before hbefore
  exact ⟨table, original, _, hlevel, original.without_append gone _⟩

theorem LevelsOf.distinct {layout : Layout} {result : Result} {levels : Levels}
    (h : LevelsOf layout result levels) : ∀ r ∈ levels, (r.groups.map Prod.fst).Nodup := by
  intro r hr
  obtain ⟨level, hlevel⟩ := List.getElem?_of_mem hr
  obtain ⟨table, original, gone, hread, rfl⟩ := h level r hlevel
  exact ((readAs_of_levelRows hread.2).grouped.filter _).distinct

/-- What a walk over some aggregations leaves: traces of them with the results that it gave. -/
structure TracedAll (layout : Layout) (result : Result) (level : Nat) (path : List Json)
    (plans : List AggregationPlan) (results : List (String × AggregationResult))
    (levels after : Levels) (traces : List (String × Trace)) : Prop where
  follows : FollowsAll layout result level path plans traces
  results : Trace.named traces = results
  walked : Walked levels after (Trace.visitsOfAll traces) (Trace.rowsOfAll traces)

/-- A walk over aggregations reads the metrics among them. -/
theorem metricsReady_of_aggregations {level : Nat} {path : List Json} {table : Table} {row : Row}
    {levels after : Levels} {plans : List AggregationPlan}
    {given : List (String × AggregationResult)}
    (h : (aggregations level path table row plans).run levels = .ok (given, after)) :
    MetricsReady plans table row := by
  induction plans generalizing level levels after given with
  | nil => simp [MetricsReady, AggregationPlan.metrics]
  | cons plan plans ih =>
    rw [aggregations] at h
    obtain ⟨first, middle, hfirst, h⟩ := Outcome.run_bind_eq_ok.mp h
    obtain ⟨rest, last, hrest, _⟩ := Outcome.run_bind_eq_ok.mp h
    cases plan with
    | metric m =>
      rw [aggregation] at hfirst
      intro other hother
      rcases List.mem_cons.mp hother with rfl | hother
      · exact ⟨first, (Outcome.run_lift_eq_ok.mp hfirst).1⟩
      · exact ih hrest other hother
    | bucket b children => exact ih hrest

/-- The buckets of some rows, each with what is below it. -/
theorem walk_buckets {layout : Layout} {result : Result} {plan : BucketPlan}
    {children : List AggregationPlan} {level : Nat} {path : List Json} {rows : LevelRows}
    (hchildren : ∀ {path : List Json} {row : Row} {levels after : Levels}
      {results : List (String × AggregationResult)}, LevelsOf layout result levels →
      (aggregations level path rows.table row children).run levels = .ok (results, after) →
      ∃ traces, TracedAll layout result level path children results levels after traces)
    {taken : List Row} {levels after : Levels} {buckets : List Bucket}
    (hlevels : LevelsOf layout result levels)
    (h : (taken.mapM fun row => (do
      let (head, raw) ← bucketHead plan rows row
      let results ← aggregations level (path ++ [raw]) rows.table row children
      pure (head, membersOf results) : Walk Bucket)).run levels = .ok (buckets, after)) :
    ∃ items, Trace.shown items = buckets ∧ Trace.ownRows items = taken ∧
      (∀ item ∈ items, ∃ row raw, item.1 = some row ∧ MetricsReady children rows.table row ∧
        bucketHead plan rows row = .ok (item.2.1, raw) ∧
        FollowsAll layout result level (path ++ [raw]) children item.2.2) ∧
      Walked levels after (Trace.visitsBelow items) (Trace.rowsBelow items) := by
  induction taken generalizing levels buckets with
  | nil =>
    rw [List.mapM_nil, Outcome.run_pure_eq_ok] at h
    obtain ⟨rfl, rfl⟩ := h
    exact ⟨[], rfl, rfl, by simp, walked_refl levels⟩
  | cons row taken ih =>
    rw [List.mapM_cons] at h
    obtain ⟨bucket, middle, hbucket, h⟩ := Outcome.run_bind_eq_ok.mp h
    obtain ⟨rest, last, hrest, h⟩ := Outcome.run_bind_eq_ok.mp h
    obtain ⟨rfl, rfl⟩ := Outcome.run_pure_eq_ok.mp h
    obtain ⟨⟨head, raw⟩, state, hhead, hbucket⟩ := Outcome.run_bind_eq_ok.mp hbucket
    obtain ⟨hkey, rfl⟩ := Outcome.run_lift_eq_ok.mp hhead
    obtain ⟨results, state, hresults, hbucket⟩ := Outcome.run_bind_eq_ok.mp hbucket
    obtain ⟨rfl, rfl⟩ := Outcome.run_pure_eq_ok.mp hbucket
    obtain ⟨traces, htraces⟩ := hchildren hlevels hresults
    -- what is taken below one bucket leaves levels of the same result for the next
    have hnext : LevelsOf layout result state := by
      rw [htraces.walked.after]
      exact hlevels.without _
    obtain ⟨items, hshown, hown, hitems, hwalked⟩ := ih hnext hrest
    refine ⟨(some row, head, traces) :: items, ?_, ?_, ?_, htraces.walked.trans hwalked⟩
    · rw [Trace.shown, hshown, htraces.results]
    · simpa [Trace.ownRows] using hown
    · intro item hitem
      rcases List.mem_cons.mp hitem with rfl | hitem
      · exact ⟨row, raw, rfl, metricsReady_of_aggregations hresults, hkey, htraces.follows⟩
      · exact hitems item hitem

/-- What is below an inserted bucket. -/
theorem emptyTraces_eq (children : List AggregationPlan) :
    Trace.visitsOfAll (emptyTraces children) = [] ∧ Trace.rowsOfAll (emptyTraces children) = [] ∧
      membersOf (Trace.named (emptyTraces children)) = emptyResults children := by
  have hnamed : Trace.named (emptyTraces children) = children.map fun
      | .metric plan => (plan.name, emptyMetric plan)
      | .bucket plan _ => (plan.name, .buckets []) := by
    induction children with
    | nil => rfl
    | cons child children ih =>
      cases child <;> exact congrArg (_ :: ·) ih
  refine ⟨?_, ?_, by rw [hnamed]; rfl⟩
  · clear hnamed
    induction children with
    | nil => rfl
    | cons child children ih => cases child <;> exact ih
  · clear hnamed
    induction children with
    | nil => rfl
    | cons child children ih => cases child <;> exact ih

/-- Inserted buckets leave the rows and the visits as they were. -/
theorem exists_items_of_fills {children : List AggregationPlan} {items : List TracedBucket}
    {shown : List Bucket} (h : Gaps.Fills (emptyResults children) (Trace.shown items) shown) :
    ∃ all, Trace.shown all = shown ∧ Trace.ownRows all = Trace.ownRows items ∧
      Trace.visitsBelow all = Trace.visitsBelow items ∧
      Trace.rowsBelow all = Trace.rowsBelow items ∧
      ∀ item ∈ all, item ∈ items ∨
        (item.1 = none ∧ item.2.1.docCount = 0 ∧ item.2.2 = emptyTraces children) := by
  obtain ⟨hvisits, hrows, hnamed⟩ := emptyTraces_eq children
  generalize hdelivered : Trace.shown items = delivered at h
  induction h generalizing items with
  | nil =>
    cases items with
    | nil => exact ⟨[], rfl, rfl, rfl, rfl, by simp⟩
    | cons item items => simp [Trace.shown] at hdelivered
  | delivered bucket rest ih =>
    cases items with
    | nil => simp [Trace.shown] at hdelivered
    | cons item items =>
      obtain ⟨row, head, below⟩ := item
      rw [Trace.shown, List.cons.injEq] at hdelivered
      obtain ⟨all, hshown, hown, hvisitsAll, hrowsAll, hall⟩ := ih hdelivered.2
      refine ⟨(row, head, below) :: all, ?_, ?_, ?_, ?_, fun item hitem => ?_⟩
      · rw [Trace.shown, hshown, hdelivered.1]
      · cases row <;> simpa [Trace.ownRows] using hown
      · rw [Trace.visitsBelow, Trace.visitsBelow, hvisitsAll]
      · rw [Trace.rowsBelow, Trace.rowsBelow, hrowsAll]
      · rcases List.mem_cons.mp hitem with rfl | hitem
        · exact Or.inl (by simp)
        · exact (hall item hitem).imp_left (List.mem_cons_of_mem _)
  | inserted key rest ih =>
    -- an inserted bucket has no row, and nothing is visited below it
    obtain ⟨all, hshown, hown, hvisitsAll, hrowsAll, hall⟩ := ih hdelivered
    refine ⟨(none, ⟨key.1, key.2, 0⟩, emptyTraces children) :: all, ?_, ?_, ?_, ?_,
      fun item hitem => ?_⟩
    · rw [Trace.shown, hshown, hnamed]
    · simpa [Trace.ownRows] using hown
    · rw [Trace.visitsBelow, hvisits, hvisitsAll, List.nil_append]
    · rw [Trace.rowsBelow, hrows, hrowsAll, List.nil_append]
    · rcases List.mem_cons.mp hitem with rfl | hitem
      · exact Or.inr ⟨rfl, rfl, rfl⟩
      · exact hall item hitem

/-- A level that is finished shows its buckets, and those that were inserted. -/
theorem exists_items_of_finish {plan : BucketPlan} {children : List AggregationPlan}
    {items : List TracedBucket} {shown : AggregationResult}
    (h : finish plan children (Trace.shown items) = .ok shown) :
    ∃ all, AggregationResult.buckets (Trace.shown all) = shown ∧
      Trace.ownRows all = Trace.ownRows items ∧
      Trace.visitsBelow all = Trace.visitsBelow items ∧
      Trace.rowsBelow all = Trace.rowsBelow items ∧
      ∀ item ∈ all, item ∈ items ∨ (plan.minDocCount = 0 ∧
        item.1 = none ∧ item.2.1.docCount = 0 ∧ item.2.2 = emptyTraces children) := by
  rcases finish_eq_ok.mp h with ⟨_, rfl⟩ | ⟨hzero, _, shown, hfill, rfl⟩
  · exact ⟨items, rfl, rfl, rfl, rfl, fun item hitem => Or.inl hitem⟩
  · obtain ⟨all, hshown, hown, hvisits, hrows, hall⟩ :=
      exists_items_of_fills (Gaps.fills_of_fill? hfill)
    refine ⟨all, by rw [hshown], hown, hvisits, hrows, fun item hitem => ?_⟩
    exact (hall item hitem).imp_right fun hinserted => ⟨hzero, hinserted⟩

/-- What a walk over an aggregation leaves: a trace of it with the result that it gave. -/
structure Traced (layout : Layout) (result : Result) (level : Nat) (path : List Json)
    (plan : AggregationPlan) (given : AggregationResult) (levels after : Levels)
    (trace : Trace) : Prop where
  follows : Follows layout result level path plan trace
  result : trace.result = given
  walked : Walked levels after trace.visits trace.rows

/-- Rows with one group key have one path. -/
theorem path_of_groupKey {keys path : List Json} (h : groupKey keys = groupKey path) :
    keys = path := by
  have harray : Json.array keys = Json.array path := Json.text_injective h
  rw [Json.array.injEq] at harray
  exact harray

mutual

/-- Every walk over an aggregation has a trace. -/
theorem aggregation_walk {layout : Layout} {result : Result} {level : Nat} {path : List Json}
    {table : Table} {row : Row} {levels after : Levels} {given : AggregationResult} :
    (plan : AggregationPlan) → LevelsOf layout result levels →
    (aggregation level path table row plan).run levels = .ok (given, after) →
    ∃ trace, Traced layout result level path plan given levels after trace
  | .metric plan => by
    intro _ h
    obtain ⟨_, rfl⟩ := Outcome.run_lift_eq_ok.mp h
    exact ⟨.leaf given, by simp [Follows], by simp [Trace.result], walked_refl levels⟩
  | .bucket plan children => by
    intro hlevels h
    obtain ⟨⟨rows, taken⟩, middle, htake, h⟩ := Outcome.run_bind_eq_ok.mp h
    obtain ⟨buckets, last, hbuckets, h⟩ := Outcome.run_bind_eq_ok.mp h
    obtain ⟨hfinish, rfl⟩ := Outcome.run_lift_eq_ok.mp h
    obtain ⟨hlevel, htaken, hmiddle⟩ := takeRows_eq_ok hlevels.distinct htake
    have hown := walked_takeRows hlevels.distinct htake
    have hmiddle : LevelsOf layout result middle := by
      rw [hmiddle]
      exact hlevels.without _
    -- first the delivered buckets, and then all that the level shows
    obtain ⟨items, hshown, hrows, hitems, hbelow⟩ :=
      walk_buckets (fun h => aggregations_walk children h) hmiddle hbuckets
    rw [← hshown] at hfinish
    obtain ⟨all, hall, hallRows, hallVisits, hallBelow, hinserted⟩ :=
      exists_items_of_finish hfinish
    obtain ⟨read, original, gone, hread, rfl⟩ := hlevels level rows hlevel
    obtain ⟨hsublist, hsame⟩ :=
      ((readAs_of_levelRows hread.2).grouped.filter _).taken (groupKey path)
    refine ⟨.buckets level path all, ?_, ?_, ?_⟩
    · refine ⟨rfl, rfl, read, original, hread, ?_, fun item hitem => ?_⟩
      · rw [hallRows, hrows, htaken]
        exact hsublist
      · rcases hinserted item hitem with hdelivered | ⟨hzero, hnone, hcount, hbelow⟩
        · obtain ⟨row, raw, hrow, hmetrics, hhead, hfollows⟩ := hitems item hdelivered
          have hmem : row ∈ taken := by
            rw [← hrows]
            exact List.mem_filterMap.mpr ⟨item, hdelivered, hrow⟩
          rw [htaken] at hmem
          rw [hrow]
          exact ⟨path_of_groupKey (hsame row hmem), hmetrics, raw, hhead, hfollows⟩
        · rw [hnone]
          exact ⟨hzero, hcount, hbelow⟩
    · rw [Trace.result, hall]
    · rw [Trace.visits, Trace.rows, hallRows, hrows, hallVisits, hallBelow]
      exact hown.trans hbelow

/-- Every walk over aggregations has traces. -/
theorem aggregations_walk {layout : Layout} {result : Result} {level : Nat} {path : List Json}
    {table : Table} {row : Row} {levels after : Levels}
    {given : List (String × AggregationResult)} :
    (plans : List AggregationPlan) → LevelsOf layout result levels →
    (aggregations level path table row plans).run levels = .ok (given, after) →
    ∃ traces, TracedAll layout result level path plans given levels after traces
  | [] => by
    intro _ h
    obtain ⟨rfl, rfl⟩ := Outcome.run_pure_eq_ok.mp h
    exact ⟨[], by simp [FollowsAll], rfl, walked_refl levels⟩
  | plan :: plans => by
    intro hlevels h
    obtain ⟨first, middle, hfirst, h⟩ := Outcome.run_bind_eq_ok.mp h
    obtain ⟨rest, last, hrest, h⟩ := Outcome.run_bind_eq_ok.mp h
    obtain ⟨rfl, rfl⟩ := Outcome.run_pure_eq_ok.mp h
    obtain ⟨trace, htrace⟩ := aggregation_walk plan hlevels hfirst
    have hmiddle : LevelsOf layout result middle := by
      rw [htrace.walked.after]
      exact hlevels.without _
    obtain ⟨traces, htraces⟩ := aggregations_walk plans hmiddle hrest
    refine ⟨(plan.name, trace) :: traces, ?_, ?_, htrace.walked.trans htraces.walked⟩
    · exact ⟨rfl, htrace.follows, htraces.follows⟩
    · rw [Trace.named, htrace.result, htraces.results]

end

section Levels

variable {layout : Layout} {result : Result}

/-- Taking rows out leaves levels of the layout. -/
theorem LevelsOf.takeRows {name : String} {level : Nat} {path : List Json}
    {levels after : Levels} {given : LevelRows × List Row} (h : LevelsOf layout result levels)
    (hrun : (takeRows name level path).run levels = .ok (given, after)) :
    LevelsOf layout result after := by
  rw [(takeRows_eq_ok h.distinct hrun).2.2]
  exact h.without _

theorem LevelsOf.aggregation {level : Nat} {path : List Json} {table : Table} {row : Row}
    {levels after : Levels} {plan : AggregationPlan} {given : AggregationResult}
    (h : LevelsOf layout result levels)
    (hrun : (aggregation level path table row plan).run levels = .ok (given, after)) :
    LevelsOf layout result after := by
  obtain ⟨trace, htrace⟩ := aggregation_walk plan h hrun
  rw [htrace.walked.after]
  exact h.without _

theorem LevelsOf.aggregations {level : Nat} {path : List Json} {table : Table} {row : Row}
    {levels after : Levels} {plans : List AggregationPlan}
    {given : List (String × AggregationResult)} (h : LevelsOf layout result levels)
    (hrun : (aggregations level path table row plans).run levels = .ok (given, after)) :
    LevelsOf layout result after := by
  obtain ⟨traces, htraces⟩ := aggregations_walk plans h hrun
  rw [htraces.walked.after]
  exact h.without _

end Levels

end KustoSearch.Mapper
