import KustoSearch.Proofs.Response.Shown
import KustoSearch.Proofs.Response.Stops

/-! # An account of the rows

What a response says about the rows of the tables that the layout lists: which of them are made
buckets or hits, and which of them make the response fail. Main result: `Plan.response_accounts`.
-/

namespace KustoSearch

namespace Mapper

variable {layout : Layout} {result : Result}

/-! ## Rows of buckets -/

/-- A level of the layout with its table. -/
def listed? (layout : Layout) (result : Result) (level : Nat) : Option (BucketTable × Table) := do
  let listed ← layout.buckets[level]?
  let table ← result.table? listed.table
  some (listed, table)

/-- The rows that were delivered for a level; a level that is not listed has none. -/
def rowsAt (layout : Layout) (result : Result) (level : Nat) : List Row :=
  match listed? layout result level with
  | none => []
  | some (_, table) => table.rows

/-- The key paths of the rows of a level; above all levels there is the empty path. -/
def keyPaths (layout : Layout) (result : Result) : Option Nat → List (List Json)
  | none => [[]]
  | some level =>
    match listed? layout result level with
    | none => []
    | some (listed, table) => table.rows.map (values table listed.keyColumns)

theorem mem_keyPaths_top (layout : Layout) (result : Result) :
    [] ∈ keyPaths layout result none := by
  simp [keyPaths]

/-- Whether the keys of a row's ancestors are the key path of a row that its level lies below. -/
def HasParent (nodes : List BucketNode) (layout : Layout) (result : Result) (level : Nat)
    (row : Row) : Prop :=
  ∃ listed table, listed? layout result level = some (listed, table) ∧
    ∃ node ∈ nodes, node.number = level ∧
      values table (ancestorColumns listed) row ∈ keyPaths layout result node.parent

/-- Whether a row was made a bucket of a node: its key, its number of documents and its metrics
were read, and it lies below a row of the node's parent. -/
def MadeBucket (nodes : List BucketNode) (layout : Layout) (result : Result) (t : Nat × Row) :
    Prop :=
  ∃ node ∈ nodes, node.number = t.1 ∧ ∃ listed rows, LevelOf layout result t.1 listed rows ∧
    values rows.table (ancestorColumns listed) t.2 ∈ keyPaths layout result node.parent ∧
    (∃ head raw, bucketHead node.plan rows t.2 = .ok (head, raw)) ∧
    MetricsReady node.children rows.table t.2

theorem MadeBucket.mono {nodes more : List BucketNode} {t : Nat × Row}
    (h : MadeBucket nodes layout result t) (hmore : nodes ⊆ more) :
    MadeBucket more layout result t := by
  obtain ⟨node, hnode, hmade⟩ := h
  exact ⟨node, hmore hnode, hmade⟩

theorem LevelOf.listed {level : Nat} {table : BucketTable} {rows : LevelRows}
    (h : LevelOf layout result level table rows) :
    listed? layout result level = some (table, rows.table) := by
  simp [listed?, h.1, (readAs_of_levelRows h.2).table]

theorem LevelOf.rows_unique {level : Nat} {table table' : BucketTable} {rows rows' : LevelRows}
    (h : LevelOf layout result level table rows) (h' : LevelOf layout result level table' rows') :
    rows = rows' := by
  have htable := h.1
  rw [h'.1, Option.some.injEq] at htable
  subst htable
  have hrows := h.2
  rw [h'.2, Except.ok.injEq] at hrows
  exact hrows.symm

theorem MadeBucket.hasParent {nodes : List BucketNode} {t : Nat × Row}
    (h : MadeBucket nodes layout result t) : HasParent nodes layout result t.1 t.2 := by
  obtain ⟨node, hnode, hnumber, listed, rows, hlevel, hpath, _⟩ := h
  exact ⟨listed, rows.table, hlevel.listed, node, hnode, hnumber, hpath⟩

/-- The key of a bucket as it was delivered is a cell of its row. -/
theorem cell_of_bucketHead {plan : BucketPlan} {rows : LevelRows} {row : Row} {head : BucketHead}
    {raw : Json} (h : bucketHead plan rows row = .ok (head, raw)) :
    row[rows.keyIndex]? = some raw := by
  obtain ⟨key, hkey, h⟩ := Outcome.bind_eq_ok.mp h
  rw [cell_eq_ok] at hkey
  split at h
  · obtain ⟨type, _, h⟩ := Outcome.bind_eq_ok.mp h
    obtain ⟨shown, _, h⟩ := Outcome.bind_eq_ok.mp h
    obtain ⟨value, _, h⟩ := Outcome.bind_eq_ok.mp h
    split at h
    · cases h
      exact hkey
    · cases h
  · cases h

/-- The key path of a row is that of its ancestors with its own key after it. -/
theorem values_keyColumns {level : BucketTable} {plan : BucketPlan} {rows : LevelRows} {row : Row}
    {head : BucketHead} {raw : Json} (hread : ReadAs result level rows)
    (hhead : bucketHead plan rows row = .ok (head, raw)) :
    values rows.table level.keyColumns row =
      values rows.table (ancestorColumns level) row ++ [raw] := by
  obtain ⟨own, hcolumns, hown⟩ := hread.own
  have hkey := cell_of_bucketHead hhead
  rw [hcolumns]
  simp [values, List.filterMap_append, hown, hkey]

mutual

/-- Every row of a trace was made a bucket, where the path of the trace is one of a row. -/
theorem madeBucket_of_follows {level : Nat} {path : List Json} {parent : Option Nat}
    (ancestors : List BucketPlan) {trace : Trace} (hpath : path ∈ keyPaths layout result parent) :
    (plan : AggregationPlan) → Follows layout result level path plan trace →
    ∀ t ∈ trace.rows, MadeBucket (plan.nodes level parent ancestors) layout result t
  | .metric plan => by
    intro h t ht
    cases trace with
    | leaf given => simp [Trace.rows] at ht
    | buckets level' path' items => simp [Follows] at h
  | .bucket plan children => by
    intro h t ht
    cases trace with
    | leaf given => simp [Follows] at h
    | buckets level' path' items =>
      obtain ⟨rfl, rfl, table, rows, hlevel, hsublist, hitems⟩ := h
      have hread := readAs_of_levelRows hlevel.2
      rw [Trace.rows, List.mem_append] at ht
      rw [AggregationPlan.nodes]
      rcases ht with ht | ht
      · -- a row of the level itself was taken for the path of the trace
        obtain ⟨row, hrow, rfl⟩ := List.mem_map.mp ht
        obtain ⟨item, hitem, hown⟩ := List.mem_filterMap.mp hrow
        have h := hitems item hitem
        rw [hown] at h
        obtain ⟨hvalues, hmetrics, raw, hhead, _⟩ := h
        exact ⟨_, List.mem_cons_self, rfl, table, rows, hlevel, by rw [hvalues]; exact hpath,
          ⟨_, raw, hhead⟩, hmetrics⟩
      · obtain ⟨item, hitem, ht⟩ := Trace.mem_rowsBelow.mp ht
        have h := hitems item hitem
        split at h
        · rename_i row hown
          obtain ⟨hvalues, _, raw, hhead, hfollows⟩ := h
          -- below a bucket the path goes on with the key of its row
          have hrow : row ∈ rows.table.rows :=
            hsublist.subset (List.mem_filterMap.mpr ⟨item, hitem, hown⟩)
          have hnext : path' ++ [raw] ∈ keyPaths layout result (some level') := by
            rw [keyPaths, hlevel.listed]
            refine List.mem_map.mpr ⟨row, hrow, ?_⟩
            rw [values_keyColumns hread hhead, hvalues]
          exact (madeBucket_of_followsAll (ancestors ++ [plan]) hnext children hfollows t ht).mono
            (List.subset_cons_self _ _)
        · obtain ⟨_, _, hempty⟩ := h
          rw [hempty, (emptyTraces_eq children).2.1] at ht
          simp at ht

/-- Every row of some traces was made a bucket. -/
theorem madeBucket_of_followsAll {level : Nat} {path : List Json} {parent : Option Nat}
    (ancestors : List BucketPlan) {traces : List (String × Trace)}
    (hpath : path ∈ keyPaths layout result parent) :
    (plans : List AggregationPlan) → FollowsAll layout result level path plans traces →
    ∀ t ∈ Trace.rowsOfAll traces,
      MadeBucket (AggregationPlan.nodesOfAll level parent ancestors plans) layout result t
  | [] => by
    intro h t ht
    cases traces with
    | nil => simp [Trace.rowsOfAll] at ht
    | cons trace traces => simp [FollowsAll] at h
  | plan :: plans => by
    intro h t ht
    cases traces with
    | nil => simp [FollowsAll] at h
    | cons named traces =>
      obtain ⟨name, trace⟩ := named
      obtain ⟨rfl, hfirst, hrest⟩ := h
      rw [Trace.rowsOfAll, List.mem_append] at ht
      rw [AggregationPlan.nodesOfAll]
      rcases ht with ht | ht
      · exact (madeBucket_of_follows ancestors hpath plan hfirst t ht).mono
          (List.subset_append_left _ _)
      · exact (madeBucket_of_followsAll ancestors hpath plans hrest t ht).mono
          (List.subset_append_right _ _)

end

/-! ## The whole walk -/

theorem metricsRow_eq_ok {metrics : Option Table} {name : String} {table : Table} {row : Row}
    (h : metricsRow metrics name = .ok (table, row)) :
    metrics = some table ∧ table.rows.head? = some row := by
  unfold metricsRow at h
  split at h
  · cases h
  · split at h
    · cases h
    · rename_i first rest hrows
      obtain ⟨_, _, h⟩ := Outcome.bind_eq_ok.mp h
      cases h
      exact ⟨rfl, by rw [hrows]; rfl⟩

/-- The first top-level aggregation is read, a metric from the first row of the metrics, then the
others are read. -/
theorem topLevel_cons_source {metrics : Option Table} {level : Nat} {plan : AggregationPlan}
    {plans : List AggregationPlan} {levels after : Levels}
    {given : List (String × AggregationResult)}
    (h : (topLevel metrics level (plan :: plans)).run levels = .ok (given, after)) :
    ∃ table row first middle rest,
      (∀ m, plan = .metric m → metrics = some table ∧ table.rows.head? = some row) ∧
      (aggregation level [] table row plan).run levels = .ok (first, middle) ∧
      (topLevel metrics (level + plan.levelCount) plans).run middle = .ok (rest, after) ∧
      given = (plan.name, first) :: rest := by
  unfold topLevel at h
  cases plan with
  | metric m =>
    obtain ⟨⟨table, row⟩, start, hsource, h⟩ := Outcome.run_bind_eq_ok.mp h
    obtain ⟨hrow, rfl⟩ := Outcome.run_lift_eq_ok.mp hsource
    obtain ⟨first, middle, hfirst, h⟩ := Outcome.run_bind_eq_ok.mp h
    obtain ⟨rest, last, hrest, h⟩ := Outcome.run_bind_eq_ok.mp h
    obtain ⟨rfl, rfl⟩ := Outcome.run_pure_eq_ok.mp h
    exact ⟨table, row, first, middle, rest, fun _ _ => metricsRow_eq_ok hrow, hfirst, hrest, rfl⟩
  | bucket b children =>
    obtain ⟨source, start, hsource, h⟩ := Outcome.run_bind_eq_ok.mp h
    obtain ⟨rfl, rfl⟩ := Outcome.run_pure_eq_ok.mp hsource
    obtain ⟨first, middle, hfirst, h⟩ := Outcome.run_bind_eq_ok.mp h
    obtain ⟨rest, last, hrest, h⟩ := Outcome.run_bind_eq_ok.mp h
    obtain ⟨rfl, rfl⟩ := Outcome.run_pure_eq_ok.mp h
    exact ⟨_, _, first, middle, rest, by simp, hfirst, hrest, rfl⟩

/-- The first top-level aggregation is read from some row, then the others are read. -/
theorem topLevel_cons_eq_ok {metrics : Option Table} {level : Nat} {plan : AggregationPlan}
    {plans : List AggregationPlan} {levels after : Levels}
    {given : List (String × AggregationResult)}
    (h : (topLevel metrics level (plan :: plans)).run levels = .ok (given, after)) :
    ∃ table row first middle rest,
      (aggregation level [] table row plan).run levels = .ok (first, middle) ∧
      (topLevel metrics (level + plan.levelCount) plans).run middle = .ok (rest, after) ∧
      given = (plan.name, first) :: rest := by
  obtain ⟨table, row, first, middle, rest, _, h⟩ := topLevel_cons_source h
  exact ⟨table, row, first, middle, rest, h⟩

/-- The walk over the top-level aggregations has traces. -/
theorem topLevel_walk {metrics : Option Table} {level : Nat} {plans : List AggregationPlan}
    {levels after : Levels} {given : List (String × AggregationResult)}
    (hlevels : LevelsOf layout result levels)
    (h : (topLevel metrics level plans).run levels = .ok (given, after)) :
    ∃ traces, TracedAll layout result level [] plans given levels after traces := by
  induction plans generalizing level levels given with
  | nil =>
    obtain ⟨rfl, rfl⟩ := Outcome.run_pure_eq_ok.mp h
    exact ⟨[], by simp [FollowsAll], rfl, walked_refl levels⟩
  | cons plan plans ih =>
    obtain ⟨table, row, first, middle, rest, hfirst, hrest, rfl⟩ := topLevel_cons_eq_ok h
    obtain ⟨trace, htrace⟩ := aggregation_walk plan hlevels hfirst
    have hmiddle : LevelsOf layout result middle := by
      rw [htrace.walked.after]
      exact hlevels.without _
    obtain ⟨traces, htraces⟩ := ih hmiddle hrest
    refine ⟨(plan.name, trace) :: traces, ?_, ?_, htrace.walked.trans htraces.walked⟩
    · exact ⟨rfl, htrace.follows, htraces.follows⟩
    · rw [Trace.named, htrace.result, htraces.results]

theorem left_eq_zero {rows : LevelRows} : rows.left = 0 ↔ held rows.groups = [] := by
  rw [LevelRows.left, held, List.length_eq_zero_iff]

/-- When no row is left, no level holds one. -/
theorem held_of_checkAllTaken {levels : Levels} (h : checkAllTaken levels = .ok ()) :
    ∀ rows ∈ levels, held rows.groups = [] := by
  intro rows hrows
  unfold checkAllTaken at h
  split at h
  · rename_i hnone
    have hleft := List.find?_eq_none.mp hnone rows hrows
    rw [← left_eq_zero]
    simpa using hleft
  · cases h

theorem checkAllTaken_of_held {levels : Levels} (h : ∀ rows ∈ levels, held rows.groups = []) :
    checkAllTaken levels = .ok () := by
  unfold checkAllTaken
  split
  · rfl
  · rename_i rows hrows
    have hleft := left_eq_zero.mpr (h rows (List.mem_of_find?_eq_some hrows))
    have hsome := List.find?_some hrows
    simp [hleft] at hsome

/-- What all aggregations together leave. -/
structure AllTaken (layout : Layout) (result : Result) (plans : List AggregationPlan)
    (traces : List (String × Trace)) : Prop where
  follows : FollowsAll layout result 0 [] plans traces
  rows : ∀ level, (ofLevel level (Trace.rowsOfAll traces)).Perm (rowsAt layout result level)

theorem allAggregations_eq_ok {plan : Plan} {results : List (String × AggregationResult)}
    (h : allAggregations plan layout result = .ok results) :
    ∃ traces, AllTaken layout result plan.aggregations traces ∧
      results = membersOf (Trace.named traces) := by
  obtain ⟨levels, hread, h⟩ := Outcome.bind_eq_ok.mp h
  obtain ⟨metrics, _, h⟩ := Outcome.bind_eq_ok.mp h
  obtain ⟨⟨given, after⟩, hwalk, h⟩ := Outcome.bind_eq_ok.mp h
  dsimp only at h
  split_ifs at h with hcount
  · obtain ⟨_, hleft, h⟩ := Outcome.bind_eq_ok.mp h
    cases h
    have hlevels := Outcome.mapM_eq_ok.mp hread
    obtain ⟨traces, htraces⟩ := topLevel_walk (levelsOf_of_mapM hread) hwalk
    refine ⟨traces, ⟨htraces.follows, fun level => ?_⟩, by rw [htraces.results]⟩
    rcases getElem?_of_forall₂ hlevels level with ⟨hnone, _⟩ | ⟨table, rows, htable, hrows, hlevel⟩
    · have hlisted : listed? layout result level = none := by simp [listed?, hnone]
      have htaken : ofLevel level (Trace.rowsOfAll traces) = [] := by
        refine ofLevel_eq_nil fun t ht heq => ?_
        obtain ⟨_, _, hsome, _⟩ := (madeBucket_of_followsAll []
          (mem_keyPaths_top layout result) _ htraces.follows t ht).hasParent
        rw [heq, hlisted] at hsome
        cases hsome
      rw [htaken, rowsAt, hlisted]
    · have hleft : held (rows.without (ofLevel level (Trace.visitsOfAll traces))).groups = [] := by
        refine held_of_checkAllTaken hleft _ (List.mem_of_getElem? (i := level) ?_)
        rw [htraces.walked.after, getElem?_without, hrows]
        rfl
      have htaken := htraces.walked.rows level rows hrows
      rw [hleft, List.nil_append] at htaken
      rw [rowsAt, LevelOf.listed ⟨htable, hlevel⟩]
      exact htaken.symm.trans (readAs_of_levelRows hlevel).all

/-- Wherever the aggregations have results, every row of a level was made a bucket. -/
theorem madeBucket_of_allAggregations {plan : Plan} {results : List (String × AggregationResult)}
    (h : allAggregations plan layout result = .ok results) {level : Nat} {row : Row}
    (hrow : row ∈ rowsAt layout result level) :
    MadeBucket (AggregationPlan.nodesOfAll 0 none [] plan.aggregations) layout result
      (level, row) := by
  obtain ⟨traces, htraces, _⟩ := allAggregations_eq_ok h
  have hmem := (htraces.rows level).mem_iff.mpr hrow
  rw [mem_ofLevel] at hmem
  exact madeBucket_of_followsAll [] (mem_keyPaths_top layout result) _ htraces.follows _ hmem

end Mapper

open Mapper

/-- What a response says about the rows of the tables. -/
structure Plan.Accounts (plan : Plan) (layout : Layout) (result : Result) (ids : Nat → String)
    (response : Response) : Prop where
  /-- Every row of the table of hits is a hit, in its place. -/
  hits : RowsAreHits plan layout result ids response.hits
  /-- The aggregations come about as the tables say. The rows of the buckets that are shown are
  those of the tables exactly when no row lies in a level that is not shown. -/
  buckets : ∃ traces, FollowsAll layout result 0 [] plan.aggregations traces ∧
    response.aggregations.getD [] = membersOf (Trace.named traces) ∧
    ((∀ level, (ofLevel level (Trace.shownRowsOfAll traces)).Perm (rowsAt layout result level)) ↔
      ∀ level, level ∉ AggregationPlan.shownLevelsOfAll 0 plan.aggregations →
        rowsAt layout result level = [])

/-- Whether a table has a row without a row that it belongs to. -/
def Plan.Orphaned (plan : Plan) (layout : Layout) (result : Result) : Prop :=
  ∃ level, ∃ row ∈ rowsAt layout result level,
    ¬ HasParent (AggregationPlan.nodesOfAll 0 none [] plan.aggregations) layout result level row

/-- A response whose rows have been accounted for. -/
theorem Plan.accounts_of_response {plan : Plan} {layout : Layout} {result : Result} {took : Nat}
    {ids : Nat → String} {response : Response}
    (h : plan.response layout result took ids = .ok response) :
    plan.Accounts layout result ids response ∧
      (plan.aggregations ≠ [] → ¬ plan.Orphaned layout result) := by
  rw [response_eq] at h
  obtain ⟨hits, hhits, h⟩ := Outcome.bind_eq_ok.mp h
  obtain ⟨total, _, h⟩ := Outcome.bind_eq_ok.mp h
  obtain ⟨aggregations, haggregations, h⟩ := Outcome.bind_eq_ok.mp h
  cases h
  have hhits := rowsAreHits_of_hitsOf hhits
  unfold resultsOf at haggregations
  split_ifs at haggregations with hnone
  · -- no aggregation is asked for, so that no level is shown
    cases haggregations
    refine ⟨⟨hhits, [], ?_, rfl, ?_⟩, fun hsome => absurd hnone hsome⟩
    · rw [hnone]
      simp [FollowsAll]
    · constructor
      · intro hrows level _
        exact (hrows level).nil_eq.symm
      · intro hhidden level
        rw [hhidden level (by simp [hnone, AggregationPlan.shownLevelsOfAll])]
        exact List.Perm.refl _
  · -- the walk took the rows of every level, and shows those of the levels that are shown
    obtain ⟨results, hresults, hsome⟩ := Outcome.map_eq_ok.mp haggregations
    subst hsome
    obtain ⟨traces, htraces, hnamed⟩ := allAggregations_eq_ok hresults
    have hshown := shownAs_of_followsAll _ htraces.follows
    refine ⟨⟨hhits, traces, htraces.follows, hnamed, ?_⟩, fun _ => ?_⟩
    · constructor
      · intro hrows level hhidden
        have hperm := hrows level
        rw [hshown.rowsOf, if_neg hhidden] at hperm
        exact hperm.nil_eq.symm
      · intro hhidden level
        rw [hshown.rowsOf]
        split_ifs with hlevel
        · exact htraces.rows level
        · rw [hhidden level hlevel]
    · rintro ⟨level, row, hrow, horphan⟩
      exact horphan (madeBucket_of_allAggregations hresults hrow).hasParent

/-- A response accounts for all rows of the tables. Where a row has no row that it belongs to there
is no response, unless no aggregation is asked for: then the tables of levels are not read. Instead
the tables are refused, unless the row with the number of hits ends before it or some interval is
at fault. -/
theorem Plan.response_accounts (plan : Plan) (layout : Layout) (result : Result) (took : Nat)
    (ids : Nat → String) :
    (∀ response, plan.response layout result took ids = .ok response →
      plan.Accounts layout result ids response) ∧
    (plan.aggregations ≠ [] → plan.Orphaned layout result →
      ∃ stop, plan.response layout result took ids = .error stop ∧
        (StopsAt layout result (AggregationPlan.nodesOfAll 0 none [] plan.aggregations) stop ∨
          stop = .fault .cellOutOfRange ∧ HitsReadable layout result ∧
            TotalCutOff layout result)) ∧
    (plan.aggregations = [] → plan.response layout result took ids =
      plan.response { layout with buckets := [] } result took ids) := by
  refine ⟨fun response h => (accounts_of_response h).1, fun hsome horphan => ?_, fun hnone => ?_⟩
  · cases h : plan.response layout result took ids with
    | error stop => exact ⟨stop, rfl, response_stops h⟩
    | ok response => exact absurd horphan ((accounts_of_response h).2 hsome)
  · simp only [Plan.response, hnone, List.isEmpty_nil, if_true]

/-- Hosts, and the users below each of them. -/
def hostsPlan : Plan where
  index := "logs"
  filter := .constant true
  aggregations := [.bucket ⟨"host", .value "host", .countDesc, some 10, 1⟩
    [.bucket ⟨"user", .value "user", .countDesc, some 10, 1⟩ []]]
  hits := ⟨0, 0, [], .none, false⟩

/-- The layout of their tables. -/
def hostsLayout : Layout :=
  ⟨none, none, none, [⟨"agg0", "host", ["host"]⟩, ⟨"agg1", "user", ["host", "user"]⟩]⟩

/-- One host, and a user below a host. -/
def hostsResult (host : String) : Result where
  tables := [
    ⟨"agg0", [⟨"host", .string⟩, ⟨"doc_count", .number⟩], [[.string "a", Json.ofNat 1]]⟩,
    ⟨"agg1", [⟨"host", .string⟩, ⟨"user", .string⟩, ⟨"doc_count", .number⟩],
      [[.string host, .string "x", Json.ofNat 1]]⟩]
  payloadBytes := 0
  engineNanos := none

/-- The response for the user below the host. -/
def hostsResponse : Response where
  took := 0
  total := ⟨0, false⟩
  hits := []
  aggregations := some [("host", .buckets [(⟨.string "a", none, 1⟩,
    [("user", .buckets [(⟨.string "x", none, 1⟩, [])])])])]

/-- The user "x" belongs to the host "a", and to no host in a table of users of a host "b". -/
theorem Plan.response_accounts_hosts :
    hostsPlan.response hostsLayout (hostsResult "a") 0 (fun _ => "") = .ok hostsResponse ∧
      hostsPlan.Accounts hostsLayout (hostsResult "a") (fun _ => "") hostsResponse ∧
      ∃ stop, hostsPlan.response hostsLayout (hostsResult "b") 0 (fun _ => "") = .error stop ∧
        (StopsAt hostsLayout (hostsResult "b")
          (AggregationPlan.nodesOfAll 0 none [] hostsPlan.aggregations) stop ∨
          stop = .fault .cellOutOfRange ∧ HitsReadable hostsLayout (hostsResult "b") ∧
            TotalCutOff hostsLayout (hostsResult "b")) := by
  have hresponse :
      hostsPlan.response hostsLayout (hostsResult "a") 0 (fun _ => "") = .ok hostsResponse := rfl
  have horphan : hostsPlan.Orphaned hostsLayout (hostsResult "b") := by
    refine ⟨1, [.string "b", .string "x", Json.ofNat 1], List.mem_singleton.mpr rfl, ?_⟩
    rintro ⟨listed, table, hlisted, node, hnode, hnumber, hpath⟩
    cases hlisted
    have hparent : node.parent = some 0 := by
      rcases List.mem_pair.mp hnode with rfl | rfl
      · cases hnumber
      · rfl
    rw [hparent] at hpath
    have hpaths : keyPaths hostsLayout (hostsResult "b") (some 0) = [[.string "a"]] := rfl
    rw [hpaths, List.mem_singleton] at hpath
    have hkeys : [Json.string "b"] = [Json.string "a"] := hpath
    simp at hkeys
  refine ⟨hresponse, ?_, ?_⟩
  · exact (Plan.response_accounts hostsPlan hostsLayout (hostsResult "a") 0 _).1 _ hresponse
  · exact (Plan.response_accounts hostsPlan hostsLayout (hostsResult "b") 0 _).2.1
      (by simp [hostsPlan]) horphan

end KustoSearch
