import KustoSearch.Proofs.Response.Mirror

/-! # Names in a response

Sub-aggregations stand beside the members of their bucket, under names that the caller chose. A
name that two members would have is always one of a bucket's own: `key`, or `key_as_string` beside
a key with a text. Main result: `Search.response_names_distinct`.
-/

namespace KustoSearch

/-! ## Buckets as objects -/

/-- The document of a bucket. -/
def Bucket.json (bucket : Bucket) : Json :=
  .object (bucket.1.members ++ AggregationResult.resultsJson bucket.2)

namespace AggregationResult

theorem bucketsJson_eq (items : List Bucket) : bucketsJson items = items.map Bucket.json := by
  induction items with
  | nil => rfl
  | cons item items ih =>
    obtain ⟨head, results⟩ := item
    rw [bucketsJson, List.map_cons, ih]
    rfl

theorem resultsJson_eq (results : List (String × AggregationResult)) :
    resultsJson results = results.map fun named => (named.1, named.2.json) := by
  induction results with
  | nil => rfl
  | cons named results ih =>
    obtain ⟨name, result⟩ := named
    rw [resultsJson, List.map_cons, ih]

theorem map_fst_resultsJson (results : List (String × AggregationResult)) :
    (resultsJson results).map Prod.fst = results.map Prod.fst := by
  rw [resultsJson_eq, List.map_map]
  rfl

/-- The buckets of a result, at every depth. -/
inductive HasBucket : AggregationResult → Bucket → Prop
  | own {items : List Bucket} {bucket : Bucket} (mem : bucket ∈ items) :
      HasBucket (.buckets items) bucket
  | inner {items : List Bucket} {item : Bucket} {named : String × AggregationResult}
      {bucket : Bucket} (mem : item ∈ items) (result : named ∈ item.2)
      (rest : HasBucket named.2 bucket) : HasBucket (.buckets items) bucket

/-- A result whose values have members with different names, and whose buckets have different
sub-aggregations, none with the name of the count of documents. -/
inductive Sound : AggregationResult → Prop
  | buckets {items : List Bucket} (keys : ∀ item ∈ items, item.1.key.NamesDistinct)
      (names : ∀ item ∈ items, (item.2.map Prod.fst).Nodup)
      (counts : ∀ item ∈ items, Aggregation.docCountColumn ∉ item.2.map Prod.fst)
      (below : ∀ item ∈ items, ∀ named ∈ item.2, Sound named.2) : Sound (.buckets items)
  | stats (count : Nat) {min max avg sum : Json} (least : min.NamesDistinct)
      (greatest : max.NamesDistinct) (average : avg.NamesDistinct) (total : sum.NamesDistinct) :
      Sound (.stats count min max avg sum)
  | percentiles {values : List (String × Json)} (names : (values.map Prod.fst).Nodup)
      (all : ∀ v ∈ values, v.2.NamesDistinct) : Sound (.percentiles values)
  | single {value : Json} (text : Option String) (distinct : value.NamesDistinct) :
      Sound (.single value text)

end AggregationResult

open AggregationResult (HasBucket Sound resultsJson)

/-- Whether no sub-aggregation of a bucket has the name of one of its own members. -/
def Bucket.ClashFree (bucket : Bucket) : Prop :=
  "key" ∉ bucket.2.map Prod.fst ∧
    (bucket.1.keyAsString ≠ none → "key_as_string" ∉ bucket.2.map Prod.fst)

/-- Whether the members of a bucket are found under their names. -/
structure Bucket.ReadsBack (bucket : Bucket) : Prop where
  key : bucket.json.get? "key" = some bucket.1.key
  keyAsString : ∀ text, bucket.1.keyAsString = some text →
    bucket.json.get? "key_as_string" = some (.string text)
  docCount : bucket.json.get? "doc_count" = some (Json.ofNat bucket.1.docCount)
  results : ∀ named ∈ bucket.2, bucket.json.get? named.1 = some named.2.json

/-- The names of a bucket's members differ where no sub-aggregation has one of its own. -/
theorem Bucket.nodup_names_iff {bucket : Bucket} (hnames : (bucket.2.map Prod.fst).Nodup)
    (hcount : Aggregation.docCountColumn ∉ bucket.2.map Prod.fst) :
    ((bucket.1.members ++ resultsJson bucket.2).map Prod.fst).Nodup ↔ bucket.ClashFree := by
  obtain ⟨⟨key, text, docCount⟩, results⟩ := bucket
  have hdocCount : "doc_count" ∉ results.map Prod.fst := hcount
  rw [List.map_append, AggregationResult.map_fst_resultsJson, List.nodup_append]
  cases text with
  | none =>
    have hown : (BucketHead.members ⟨key, none, docCount⟩).map Prod.fst = ["key", "doc_count"] :=
      rfl
    rw [hown]
    constructor
    · rintro ⟨_, _, hapart⟩
      exact ⟨fun hkey => hapart "key" (by simp) "key" hkey rfl, fun h => absurd rfl h⟩
    · rintro ⟨hkey, _⟩
      refine ⟨by decide, hnames, fun a ha b hb hab => ?_⟩
      rcases List.mem_pair.mp ha with rfl | rfl
      · exact hkey (hab ▸ hb)
      · exact hdocCount (hab ▸ hb)
  | some text =>
    have hown : (BucketHead.members ⟨key, some text, docCount⟩).map Prod.fst =
        ["key", "key_as_string", "doc_count"] := rfl
    rw [hown]
    constructor
    · rintro ⟨_, _, hapart⟩
      exact ⟨fun hkey => hapart "key" (by simp) "key" hkey rfl,
        fun _ htext => hapart "key_as_string" (by simp) "key_as_string" htext rfl⟩
    · rintro ⟨hkey, htext⟩
      refine ⟨by decide, hnames, fun a ha b hb hab => ?_⟩
      simp only [List.mem_cons, List.not_mem_nil, or_false] at ha
      rcases ha with rfl | rfl | rfl
      · exact hkey (hab ▸ hb)
      · exact htext (by simp) (hab ▸ hb)
      · exact hdocCount (hab ▸ hb)

/-- Where the names of a bucket's members differ, each member is found under its name. -/
theorem Bucket.readsBack_of_nodup {bucket : Bucket}
    (h : ((bucket.1.members ++ resultsJson bucket.2).map Prod.fst).Nodup) :
    bucket.ReadsBack := by
  have hown : ∀ m ∈ bucket.1.members, bucket.json.get? m.1 = some m.2 := fun m hm =>
    member?_of_mem h (List.mem_append_left _ hm)
  refine ⟨hown ("key", bucket.1.key) (by simp [BucketHead.members]), fun text htext => ?_,
    hown ("doc_count", Json.ofNat bucket.1.docCount) (by simp [BucketHead.members]),
    fun named hnamed => ?_⟩
  · exact hown ("key_as_string", .string text) (by simp [BucketHead.members, htext, optionalMember])
  · refine member?_of_mem h (m := (named.1, named.2.json)) (List.mem_append_right _ ?_)
    rw [AggregationResult.resultsJson_eq]
    exact List.mem_map.mpr ⟨named, hnamed, rfl⟩

/-! ## Results as documents -/

theorem BucketHead.namesDistinct_members {head : BucketHead} (h : head.key.NamesDistinct) :
    ∀ m ∈ head.members, m.2.NamesDistinct := by
  intro m hm
  obtain ⟨key, text, docCount⟩ := head
  cases text with
  | none =>
    rcases List.mem_pair.mp hm with rfl | rfl
    · exact h
    · exact Json.namesDistinct_ofNat docCount
  | some text =>
    have hm : m ∈ [("key", key), ("key_as_string", .string text),
        ("doc_count", Json.ofNat docCount)] := hm
    simp only [List.mem_cons, List.not_mem_nil, or_false] at hm
    rcases hm with rfl | rfl | rfl
    · exact h
    · exact .string text
    · exact Json.namesDistinct_ofNat docCount

/-- A bucket's object, in terms of its names and of the results below it. -/
theorem Bucket.namesDistinct_json_iff {bucket : Bucket} (hkey : bucket.1.key.NamesDistinct)
    (hnames : (bucket.2.map Prod.fst).Nodup)
    (hcount : Aggregation.docCountColumn ∉ bucket.2.map Prod.fst) :
    bucket.json.NamesDistinct ↔
      bucket.ClashFree ∧ ∀ named ∈ bucket.2, named.2.json.NamesDistinct := by
  rw [Bucket.json, Json.namesDistinct_object_iff, Bucket.nodup_names_iff hnames hcount]
  refine and_congr_right fun _ => ?_
  rw [AggregationResult.resultsJson_eq]
  constructor
  · intro h named hnamed
    exact h (named.1, named.2.json)
      (List.mem_append_right _ (List.mem_map.mpr ⟨named, hnamed, rfl⟩))
  · intro h m hm
    rcases List.mem_append.mp hm with hm | hm
    · exact BucketHead.namesDistinct_members hkey m hm
    · obtain ⟨named, hnamed, rfl⟩ := List.mem_map.mp hm
      exact h named hnamed

namespace AggregationResult

theorem namesDistinct_stats (count : Nat) {min max avg sum : Json} (least : min.NamesDistinct)
    (greatest : max.NamesDistinct) (average : avg.NamesDistinct) (total : sum.NamesDistinct) :
    (AggregationResult.stats count min max avg sum).json.NamesDistinct := by
  rw [json, Json.namesDistinct_object_iff]
  refine ⟨by simp, ?_⟩
  simp only [List.forall_mem_cons]
  exact ⟨Json.namesDistinct_ofNat count, least, greatest, average, total, by simp⟩

theorem namesDistinct_percentiles {values : List (String × Json)}
    (names : (values.map Prod.fst).Nodup) (all : ∀ v ∈ values, v.2.NamesDistinct) :
    (AggregationResult.percentiles values).json.NamesDistinct := by
  rw [json, Json.namesDistinct_object_iff]
  refine ⟨by simp, ?_⟩
  rw [List.forall_mem_singleton]
  exact .object names all

theorem namesDistinct_single {value : Json} (text : Option String)
    (distinct : value.NamesDistinct) :
    (AggregationResult.single value text).json.NamesDistinct := by
  rw [json, Json.namesDistinct_object_iff]
  cases text with
  | none => exact ⟨by simp [optionalMember], by simpa [optionalMember] using distinct⟩
  | some text =>
    refine ⟨by simp [optionalMember], ?_⟩
    simp only [optionalMember, List.forall_mem_cons]
    exact ⟨distinct, .string text, by simp⟩

end AggregationResult

/-- The document of a sound result has different names wherever its buckets have. -/
theorem AggregationResult.namesDistinct_json_iff {result : AggregationResult}
    (h : result.Sound) :
    result.json.NamesDistinct ↔ ∀ bucket, result.HasBucket bucket → bucket.ClashFree := by
  induction h with
  | @buckets items keys names counts below ih =>
    have hobject : (AggregationResult.buckets items).json.NamesDistinct ↔
        ∀ item ∈ items, item.ClashFree ∧ ∀ named ∈ item.2, named.2.json.NamesDistinct := by
      rw [json, bucketsJson_eq, Json.namesDistinct_object_iff]
      simp only [List.map_cons, List.map_nil, List.nodup_singleton, true_and,
        List.forall_mem_singleton, Json.namesDistinct_array_iff, List.forall_mem_map]
      refine forall₂_congr fun item hitem => ?_
      exact Bucket.namesDistinct_json_iff (keys item hitem) (names item hitem)
        (counts item hitem)
    rw [hobject]
    constructor
    · intro h bucket hbucket
      cases hbucket with
      | own mem => exact (h bucket mem).1
      | inner mem result rest =>
        exact (ih _ mem _ result).mp ((h _ mem).2 _ result) bucket rest
    · intro h item hitem
      refine ⟨h item (.own hitem), fun named hnamed => ?_⟩
      exact (ih item hitem named hnamed).mpr fun bucket hbucket =>
        h bucket (.inner hitem hnamed hbucket)
  -- the other results have no buckets
  | stats count least greatest average total =>
    refine iff_of_true (namesDistinct_stats count least greatest average total) ?_
    intro bucket hbucket
    cases hbucket
  | percentiles names all =>
    refine iff_of_true (namesDistinct_percentiles names all) ?_
    intro bucket hbucket
    cases hbucket
  | single text distinct =>
    refine iff_of_true (namesDistinct_single text distinct) ?_
    intro bucket hbucket
    cases hbucket

/-! ## Values of cells -/

/-- Whether the documents in the cells of a result have different names in each object. -/
def Result.CellsDistinct (result : Result) : Prop :=
  ∀ table ∈ result.tables, ∀ row ∈ table.rows, ∀ value ∈ row, value.NamesDistinct

namespace Cell

theorem namesDistinct_numeric {table column : String} {value shown : Json}
    (h : numeric table column value = .ok shown) : shown.NamesDistinct := by
  unfold numeric at h
  split at h
  · cases h
    exact .null
  · cases h
    exact .number _
  · split_ifs at h
    · cases h
      exact .null
    · split at h
      · cases h
        exact .number _
      · cases h
  · cases h

theorem namesDistinct_metric {table : String} {column : Column} {value : Json} {m : Metric}
    (h : metric table column value = .ok m) : m.value.NamesDistinct := by
  have hnumber : ∀ {m : Metric}, (do
      let v ← numeric table column.name value
      .ok (⟨v, none⟩ : Metric) : Except Stop Metric) = .ok m → m.value.NamesDistinct := by
    intro m h
    obtain ⟨v, hv, h⟩ := Outcome.bind_eq_ok.mp h
    cases h
    exact namesDistinct_numeric hv
  unfold metric at h
  dsimp only at h
  split at h
  · split_ifs at h
    · exact hnumber h
    · split at h
      · cases h
        exact Json.namesDistinct_ofInt _
      · cases h
  · exact hnumber h

/-- The key of a bucket is a date, a number, or the cell as it came. -/
theorem namesDistinct_bucketKey {table aggregation : String} {type : ColumnType}
    {key : BucketKey} {raw shown : Json} {text : Option String} (hraw : raw.NamesDistinct)
    (h : bucketKey table aggregation type key raw = .ok (shown, text)) :
    shown.NamesDistinct := by
  unfold bucketKey at h
  split_ifs at h
  cases type with
  | timestamp =>
    dsimp only at h
    split at h
    · cases h
    · split at h
      · cases h
        exact Json.namesDistinct_ofInt _
      · cases h
  | number =>
    dsimp only at h
    split at h
    · cases h
      exact .number _
    · split at h
      · cases h
        exact .number _
      · cases h
    · cases h
  | string =>
    cases h
    exact hraw
  | bool =>
    cases h
    exact hraw
  | dynamic =>
    cases h
    exact hraw

/-- A dynamic cell may hold the text of a document. -/
theorem namesDistinct_sourceValue {type : ColumnType} {value : Json}
    (h : value.NamesDistinct) : (sourceValue type value).NamesDistinct := by
  unfold sourceValue
  split
  · rename_i s
    cases hread : Json.read? s.toList with
    | none => exact h
    | some json => exact Json.namesDistinct_of_read? hread
  · exact h

end Cell

namespace Gaps

theorem namesDistinct_between? {key : BucketKey} {prev next : Json} {limit : Nat}
    {keys : List Key} (h : between? key prev next limit = some keys) :
    ∀ k ∈ keys, k.1.NamesDistinct := by
  cases key with
  | date field interval =>
    simp only [between?, dateGap?] at h
    split at h
    · split at h
      · obtain ⟨starts, _, rfl⟩ := Option.map_eq_some_iff.mp h
        intro k hk
        obtain ⟨t, _, rfl⟩ := List.mem_map.mp hk
        exact Json.namesDistinct_ofInt _
      · cases h
        simp
    · cases h
      simp
  | number field width =>
    simp only [between?, numberGap?] at h
    split at h
    · split at h
      · cases h
      · split_ifs at h
        intro k hk
        obtain ⟨i, _, hi⟩ := exists_of_mem_mapM h hk
        obtain ⟨x, _, rfl⟩ := Option.map_eq_some_iff.mp hi
        exact .number _
    · cases h
      simp
  | value field =>
    cases h
    simp

end Gaps

/-! ## Sound results -/

namespace Mapper

theorem namesDistinct_statistic {cells : List (MetricRole × Cell.Metric)}
    (hcells : ∀ c ∈ cells, c.2.value.NamesDistinct) (s : Statistic) :
    (statistic cells s).NamesDistinct := by
  unfold statistic
  split
  · rename_i c hc
    exact hcells c (List.mem_of_find?_eq_some hc)
  · exact .null

theorem namesDistinct_zeroIfNull {value : Json} (h : value.NamesDistinct) :
    (zeroIfNull value).NamesDistinct := by
  unfold zeroIfNull
  split_ifs
  · exact Json.namesDistinct_ofNat 0
  · exact h

/-- The result of a metric from values with different names. -/
theorem sound_metricFromCells {function : MetricFunction}
    {cells : List (MetricRole × Cell.Metric)}
    (hcells : ∀ c ∈ cells, c.2.value.NamesDistinct) : (metricFromCells function cells).Sound := by
  have hstatistic := namesDistinct_statistic hcells
  unfold metricFromCells
  extract_lets first
  have hfirst : first.value.NamesDistinct := by
    dsimp only [first]
    split
    · exact hcells _ List.mem_cons_self
    · exact .null
  cases function with
  | stats =>
    dsimp only
    split_ifs
    · exact .stats 0 .null .null .null (Json.namesDistinct_ofNat 0)
    · exact .stats _ (hstatistic _) (hstatistic _) (hstatistic _)
        (namesDistinct_zeroIfNull (hstatistic _))
  | percentiles percents =>
    refine .percentiles (nodup_membersOf _) fun v hv => ?_
    obtain ⟨c, hc, hmember⟩ := List.mem_filterMap.mp (mem_of_mem_membersOf hv)
    split at hmember
    · cases hmember
      exact hcells c hc
    · cases hmember
  | sum => exact .single _ (namesDistinct_zeroIfNull hfirst)
  | cardinality => exact .single _ (namesDistinct_zeroIfNull hfirst)
  | valueCount => exact .single _ (namesDistinct_zeroIfNull hfirst)
  | avg => exact .single _ hfirst
  | min => exact .single _ hfirst
  | max => exact .single _ hfirst

/-- The values in the cells of a metric have different names. -/
theorem namesDistinct_of_cells {table : Table} {row : Row} {columns : List MetricColumn}
    {cells : List (MetricRole × Cell.Metric)}
    (h : List.Forall₂ (fun c cell => metricCell table row c = .ok cell) columns cells) :
    ∀ c ∈ cells, c.2.value.NamesDistinct := by
  intro c hc
  obtain ⟨column, _, hcell⟩ := exists_of_forall₂ h.flip hc
  obtain ⟨i, _, hcell⟩ := Outcome.bind_eq_ok.mp hcell
  obtain ⟨value, _, hcell⟩ := Outcome.bind_eq_ok.mp hcell
  split at hcell
  · obtain ⟨m, hm, hcell⟩ := Outcome.bind_eq_ok.mp hcell
    cases hcell
    exact Cell.namesDistinct_metric hm
  · cases hcell

theorem namesDistinct_bucketHead {plan : BucketPlan} {rows : LevelRows} {row : Row}
    {head : BucketHead} {raw : Json} (hrow : ∀ value ∈ row, value.NamesDistinct)
    (h : bucketHead plan rows row = .ok (head, raw)) : head.key.NamesDistinct := by
  obtain ⟨cell, hcell, h⟩ := Outcome.bind_eq_ok.mp h
  have hdistinct := hrow cell (List.mem_of_getElem? (cell_eq_ok.mp hcell))
  split at h
  · obtain ⟨type, _, h⟩ := Outcome.bind_eq_ok.mp h
    obtain ⟨⟨key, text⟩, hkey, h⟩ := Outcome.bind_eq_ok.mp h
    obtain ⟨value, _, h⟩ := Outcome.bind_eq_ok.mp h
    split at h
    · cases h
      exact Cell.namesDistinct_bucketKey hdistinct hkey
    · cases h
  · cases h

/-- The names below a bucket are those of its sub-aggregations. -/
theorem mem_names_of_givenBy {p : AggregationPlan → AggregationResult → Prop}
    {plans : List AggregationPlan} {results : List (String × AggregationResult)}
    (h : GivenBy p plans results) {named : String × AggregationResult}
    (hnamed : named ∈ membersOf results) :
    ∃ plan ∈ plans, named.1 = plan.name ∧ p plan named.2 :=
  exists_of_forall₂ h.flip (mem_of_mem_membersOf hnamed)

/-- Every result of a well-named plan is sound. -/
theorem sound_invariant {result : Result} (hcells : result.CellsDistinct) :
    ResultInvariant result (fun head => head.key.NamesDistinct)
      (fun plan given => plan.WellNamed → given.Sound) where
  metric := by
    intro plan table row given hgiven _
    obtain ⟨cells, hvalues, hgiven⟩ := Outcome.bind_eq_ok.mp hgiven
    cases hgiven
    exact sound_metricFromCells (namesDistinct_of_cells (Outcome.mapM_eq_ok.mp hvalues))
  emptyMetric := by
    intro plan _
    refine sound_metricFromCells fun c hc => ?_
    obtain ⟨column, _, rfl⟩ := List.mem_map.mp hc
    exact .null
  head := by
    rintro plan rows row head raw ⟨table, htable, hrow⟩ hhead
    exact namesDistinct_bucketHead (hcells table htable row hrow) hhead
  gap := fun hkeys k hk => Gaps.namesDistinct_between? hkeys k hk
  buckets := by
    intro plan children items hitems hnamed
    cases hnamed with
    | bucket own names below =>
      refine .buckets (fun item hitem => (hitems item hitem).1) (fun item hitem => ?_)
        (fun item hitem => ?_) (fun item hitem named hmem => ?_)
      · obtain ⟨_, results, _, heq⟩ := hitems item hitem
        rw [heq]
        exact nodup_membersOf results
      · obtain ⟨_, results, hgiven, heq⟩ := hitems item hitem
        rw [heq]
        -- a sub-aggregation with the name of the count would be a plan with that name
        intro hcount
        obtain ⟨named, hmem, hname⟩ := List.mem_map.mp hcount
        obtain ⟨child, hchild, hchildName, _⟩ := mem_names_of_givenBy hgiven hmem
        exact (below child hchild).name_ne (by rw [← hchildName, hname])
      · obtain ⟨_, results, hgiven, heq⟩ := hitems item hitem
        rw [heq] at hmem
        obtain ⟨child, hchild, _, hsound⟩ := mem_names_of_givenBy hgiven hmem
        exact hsound (below child hchild)

end Mapper

/-! ## The whole response -/

theorem Hit.namesDistinct_json {hit : Hit}
    (h : ∀ members, hit.source = some members → (Json.object members).NamesDistinct) :
    hit.json.NamesDistinct := by
  obtain ⟨index, id, source⟩ := hit
  rw [Hit.json, Json.namesDistinct_object_iff]
  cases source with
  | none =>
    refine ⟨by simp, ?_⟩
    simp only [List.append_nil, List.forall_mem_cons]
    exact ⟨.string index, .string id, .null, by simp⟩
  | some members =>
    refine ⟨by simp, ?_⟩
    simp only [List.cons_append, List.nil_append, List.forall_mem_cons]
    exact ⟨.string index, .string id, .null, h members rfl, by simp⟩

theorem TotalHits.namesDistinct_json (total : TotalHits) : total.json.NamesDistinct := by
  rw [TotalHits.json, Json.namesDistinct_object_iff]
  refine ⟨by simp, ?_⟩
  simp only [List.forall_mem_cons]
  exact ⟨Json.namesDistinct_ofNat _, .string _, by simp⟩

theorem Response.namesDistinct_shardsJson : shardsJson.NamesDistinct := by
  rw [shardsJson, Json.namesDistinct_object_iff]
  refine ⟨by simp, ?_⟩
  simp only [List.forall_mem_cons]
  exact ⟨Json.namesDistinct_ofNat 1, Json.namesDistinct_ofNat 1, Json.namesDistinct_ofNat 0,
    Json.namesDistinct_ofNat 0, by simp⟩

/-- Of the parts of a response, the results alone may have names that clash. -/
theorem Response.namesDistinct_json_iff {response : Response}
    (hhits : ∀ hit ∈ response.hits, hit.json.NamesDistinct) :
    response.json.NamesDistinct ↔ ∀ results, response.aggregations = some results →
      (Json.object (resultsJson results)).NamesDistinct := by
  obtain ⟨took, total, hits, aggregations⟩ := response
  -- everything beside the results has different names
  have hparts : ∀ m ∈ [("took", Json.ofNat took), ("timed_out", .bool false),
      ("_shards", shardsJson), ("hits", .object [("total", total.json), ("max_score", .null),
        ("hits", .array (hits.map Hit.json))])], m.2.NamesDistinct := by
    simp only [List.forall_mem_cons]
    refine ⟨Json.namesDistinct_ofNat took, .bool false, namesDistinct_shardsJson, ?_, by simp⟩
    rw [Json.namesDistinct_object_iff]
    refine ⟨by simp, ?_⟩
    simp only [List.forall_mem_cons]
    refine ⟨total.namesDistinct_json, .null, .array ?_, by simp⟩
    intro json hjson
    obtain ⟨hit, hhit, rfl⟩ := List.mem_map.mp hjson
    exact hhits hit hhit
  rw [Response.json, Json.namesDistinct_object_iff]
  cases aggregations with
  | none =>
    constructor
    · intro _ results h
      cases h
    · intro _
      exact ⟨by simp, fun m hm => hparts m (by simpa using hm)⟩
  | some given =>
    constructor
    · intro h results hresults
      cases hresults
      exact h.2 ("aggregations", .object (resultsJson given)) (by simp)
    · intro h
      refine ⟨by simp, fun m hm => ?_⟩
      rcases List.mem_append.mp hm with hm | hm
      · exact hparts m hm
      · rw [List.mem_singleton.mp hm]
        exact h given rfl

/-- The members of a hit are found in one row. -/
theorem Mapper.namesDistinct_hitSource {source : SourceSelection} {table : Table} {row : Row}
    {members : List (String × Json)} (hrow : ∀ value ∈ row, value.NamesDistinct)
    (h : hitSource source table row = some members) : (Json.object members).NamesDistinct := by
  unfold hitSource at h
  split_ifs at h
  cases h
  refine .object (nodup_membersOf _) fun m hm => ?_
  obtain ⟨⟨column, value⟩, hmem, rfl⟩ := List.mem_map.mp (mem_of_mem_membersOf hm)
  exact Cell.namesDistinct_sourceValue (hrow value (List.of_mem_zip hmem).2)

theorem Mapper.namesDistinct_hits {plan : Plan} {layout : Layout} {result : Result}
    {ids : Nat → String} {hits : List Hit} (hcells : result.CellsDistinct)
    (h : RowsAreHits plan layout result ids hits) : ∀ hit ∈ hits, hit.json.NamesDistinct := by
  intro hit hhit
  unfold RowsAreHits at h
  split at h
  · rw [h] at hhit
    cases hhit
  · obtain ⟨table, htable, rfl⟩ := h
    obtain ⟨i, hi, rfl⟩ := List.mem_mapIdx.mp hhit
    refine Hit.namesDistinct_json fun members hmembers => ?_
    exact namesDistinct_hitSource (hcells table (List.mem_of_find?_eq_some htable) _
      (List.getElem_mem hi)) hmembers

/-- The buckets of a response, at every depth. -/
def Response.HasBucket (response : Response) (bucket : Bucket) : Prop :=
  ∃ results, response.aggregations = some results ∧ ∃ named ∈ results, named.2.HasBucket bucket

/-- The buckets of a sound result have different names below them. -/
theorem AggregationResult.Sound.names {result : AggregationResult} {bucket : Bucket}
    (h : result.Sound) (hbucket : result.HasBucket bucket) :
    (bucket.2.map Prod.fst).Nodup ∧
      Aggregation.docCountColumn ∉ bucket.2.map Prod.fst := by
  induction hbucket with
  | own mem =>
    cases h with
    | buckets keys names counts below => exact ⟨names _ mem, counts _ mem⟩
  | inner mem result rest ih =>
    cases h with
    | buckets keys names counts below => exact ih (below _ mem _ result)

/-- What is known of the results of a response to an accepted request. -/
theorem Search.sound_of_response {index database : String} {body : Json} {search : Search}
    {plan : Plan} {batch : Batch} {result : Result} {took : Nat} {ids : Nat → String}
    {response : Response} (hread : Search.read index body = .ok search)
    (hplan : search.plan = .ok plan) (hbatch : plan.batch database = .ok batch)
    (hcells : result.CellsDistinct)
    (hresponse : plan.response batch.layout result took ids = .ok response) :
    ∀ results, response.aggregations = some results →
      (results.map Prod.fst).Nodup ∧ ∀ named ∈ results, named.2.Sound := by
  intro results hresults
  obtain ⟨document, _, hanswers⟩ := Search.answers_of_batch hread hplan hbatch
  rcases (Mapper.sound_invariant hcells).response hresponse with
    ⟨_, hnone⟩ | ⟨_, given, hgiven, hsome⟩
  · rw [hnone] at hresults
    cases hresults
  · rw [hsome] at hresults
    cases hresults
    refine ⟨nodup_membersOf given, fun named hnamed => ?_⟩
    obtain ⟨p, hp, _, hsound⟩ := Mapper.mem_names_of_givenBy hgiven hnamed
    exact hsound (hanswers.wellNamed p hp)

/-- The objects in the text of a response to an accepted request have different names exactly where
no sub-aggregation has the name of a bucket's own member: the count of documents is never at stake,
`key` always is, and `key_as_string` is beside a key with a text. A bucket without such a
sub-aggregation gives each of its members back under its name. -/
theorem Search.response_names_distinct {index database : String} {body : Json} {search : Search}
    {plan : Plan} {batch : Batch} {result : Result} {took : Nat} {ids : Nat → String}
    {response : Response} (hread : Search.read index body = .ok search)
    (hplan : search.plan = .ok plan) (hbatch : plan.batch database = .ok batch)
    (hcells : result.CellsDistinct)
    (hresponse : plan.response batch.layout result took ids = .ok response) :
    ((∀ document : Json, document.text = response.json.text → document.NamesDistinct) ↔
        ∀ bucket, response.HasBucket bucket → bucket.ClashFree) ∧
      ∀ bucket, response.HasBucket bucket → bucket.ClashFree → bucket.ReadsBack := by
  have hsound := sound_of_response hread hplan hbatch hcells hresponse
  have hhits : ∀ hit ∈ response.hits, hit.json.NamesDistinct := by
    rw [Mapper.response_eq] at hresponse
    obtain ⟨hits, hhits, hresponse⟩ := Outcome.bind_eq_ok.mp hresponse
    obtain ⟨total, _, hresponse⟩ := Outcome.bind_eq_ok.mp hresponse
    obtain ⟨results, _, hresponse⟩ := Outcome.bind_eq_ok.mp hresponse
    cases hresponse
    exact Mapper.namesDistinct_hits hcells (Mapper.rowsAreHits_of_hitsOf hhits)
  have hresults : response.json.NamesDistinct ↔
      ∀ bucket, response.HasBucket bucket → bucket.ClashFree := by
    rw [Response.namesDistinct_json_iff hhits]
    constructor
    · rintro h bucket ⟨results, hsome, named, hnamed, hbucket⟩
      have hvalues := (Json.namesDistinct_object_iff.mp (h results hsome)).2
      refine (AggregationResult.namesDistinct_json_iff ((hsound results hsome).2 named hnamed)).mp
        (hvalues (named.1, named.2.json) ?_) bucket hbucket
      rw [AggregationResult.resultsJson_eq]
      exact List.mem_map.mpr ⟨named, hnamed, rfl⟩
    · intro h results hsome
      obtain ⟨hnames, hall⟩ := hsound results hsome
      refine .object (by rwa [AggregationResult.map_fst_resultsJson]) fun m hm => ?_
      rw [AggregationResult.resultsJson_eq] at hm
      obtain ⟨named, hnamed, rfl⟩ := List.mem_map.mp hm
      refine (AggregationResult.namesDistinct_json_iff (hall named hnamed)).mpr
        fun bucket hbucket => h bucket ⟨results, hsome, named, hnamed, hbucket⟩
  constructor
  · -- a text is that of one document only, so that it is enough to look at the response's own
    rw [← hresults]
    constructor
    · intro h
      exact h response.json rfl
    · intro h document htext
      rwa [Json.text_injective htext]
  · -- the members of one bucket are found whether or not the other buckets clash
    rintro bucket ⟨results, hsome, named, hnamed, hbucket⟩ hfree
    obtain ⟨hnames, hcount⟩ := ((hsound results hsome).2 named hnamed).names hbucket
    exact Bucket.readsBack_of_nodup ((Bucket.nodup_names_iff hnames hcount).mpr hfree)

/-- The users below a host stand beside the host's own members, under a name of their own. -/
theorem Search.response_names_distinct_hosts :
    ∃ batch, Search.read "logs" hostsBody = .ok hostsSearch ∧ hostsSearch.plan = .ok hostsPlan ∧
      hostsPlan.batch "db" = .ok batch ∧ (hostsResult "a").CellsDistinct ∧
      hostsPlan.response batch.layout (hostsResult "a") 0 (fun _ => "") = .ok hostsResponse ∧
      ((∀ document : Json, document.text = hostsResponse.json.text → document.NamesDistinct) ↔
        ∀ bucket, hostsResponse.HasBucket bucket → bucket.ClashFree) ∧
      ∀ bucket, hostsResponse.HasBucket bucket → bucket.ClashFree → bucket.ReadsBack := by
  obtain ⟨batch, hbatch, hlayout⟩ := exists_batch_hosts
  have hresponse : hostsPlan.response batch.layout (hostsResult "a") 0 (fun _ => "") =
      .ok hostsResponse := by
    rw [hlayout]
    rfl
  have hcells : (hostsResult "a").CellsDistinct := by
    simp only [Result.CellsDistinct, hostsResult, List.forall_mem_cons, List.not_mem_nil,
      false_implies, implies_true, and_true]
    exact ⟨⟨.string "a", Json.namesDistinct_ofNat 1⟩, .string "a", .string "x",
      Json.namesDistinct_ofNat 1⟩
  exact ⟨batch, read_hosts, rfl, hbatch, hcells, hresponse,
    response_names_distinct read_hosts rfl hbatch hcells hresponse⟩

end KustoSearch
