import KustoSearch.Proofs.Calendar.Instant
import KustoSearch.Proofs.Response.Sources

/-! # Completed levels

What a level looks like once the keys between its buckets have been put in, however many they are,
and which completed levels are shown: those that have room for one more bucket after each empty one.
Buckets that were delivered are shown wherever they stand. Main result: `aggregation_completed`.
-/

namespace KustoSearch

namespace Gaps

open Calendar (Instant)

/-- A place of a completed level: a bucket that was delivered, or the key of an empty one. -/
inductive Entry where
  | delivered (bucket : Bucket)
  | inserted (key : Key)

/-- The bucket that stands in a place. -/
def Entry.bucket (empty : List (String × AggregationResult)) : Entry → Bucket
  | .delivered bucket => bucket
  | .inserted key => (⟨key.1, key.2, 0⟩, empty)

/-- Whether some keys are those between two keys of a level, however many they are. -/
def Between (key : BucketKey) (prev next : Json) (keys : List Key) : Prop :=
  ∃ limit, between? key prev next limit = some keys

/-- The places after a key, with some buckets still to come. -/
inductive Continues (key : BucketKey) : (prev : Json) → List Bucket → List Entry → Prop where
  | nil (prev : Json) : Continues key prev [] []
  | cons {prev : Json} {bucket : Bucket} {keys : List Key} {delivered : List Bucket}
      {entries : List Entry} (between : Between key prev bucket.1.key keys)
      (rest : Continues key bucket.1.key delivered entries) :
      Continues key prev (bucket :: delivered)
        (keys.map .inserted ++ .delivered bucket :: entries)

/-- The places of a level: its buckets and the keys between them. -/
inductive Completes (key : BucketKey) : List Bucket → List Entry → Prop where
  | nil : Completes key [] []
  | cons {bucket : Bucket} {delivered : List Bucket} {entries : List Entry}
      (rest : Continues key bucket.1.key delivered entries) :
      Completes key (bucket :: delivered) (.delivered bucket :: entries)

/-! ## Keys between two keys -/

/-- Whole numbers of 64 bits are read back from their keys. -/
theorem integerKey?_ofInt {n : Int} (hfrom : -9223372036854775808 ≤ n)
    (hto : n < 9223372036854775808) : integerKey? (Json.ofInt n) = some n := by
  cases n with
  | ofNat n =>
    rw [Int.ofNat_eq_natCast] at hto
    have hsmall : n < Nat.pow 2 64 := by
      show n < 18446744073709551616
      omega
    have hword : n.toUInt64.toNat = n := by
      simpa using Nat.mod_eq_of_lt hsmall
    have hkept : ((n.toUInt64.toNat : Int) ≤ Int.pow 2 63 - 1) := by
      rw [hword]
      show (n : Int) ≤ 9223372036854775807
      omega
    simp only [Json.ofInt, Number.ofInt?, Number.ofNat?, if_pos hsmall, integerKey?,
      Number.toInt64?, Number.toInt?]
    rw [Option.filter_some, if_pos (decide_eq_true hkept), hword]
    rfl
  | negSucc k =>
    have hsmall : k < Nat.pow 2 63 := by
      show k < 9223372036854775808
      omega
    have hkept : (Int.negSucc k ≤ Int.pow 2 63 - 1) := by
      show Int.negSucc k ≤ 9223372036854775807
      omega
    simp only [Json.ofInt, Number.ofInt?, dif_pos hsmall, integerKey?, Number.toInt64?,
      Number.toInt?]
    rw [Option.filter_some, if_pos (decide_eq_true hkept)]

/-- Between the keys of two instants lie those of the starts between the instants. -/
theorem dateGap?_dateKey (interval : Interval) {t u : Instant}
    (ht : Instant.ofMillis? t.millis = some t) (hu : Instant.ofMillis? u.millis = some u)
    (limit : Nat) :
    dateGap? interval (dateKey t).1 (dateKey u).1 limit =
      (dateStarts? interval u limit t []).map fun starts => starts.map dateKey := by
  have hkey : ∀ {t : Instant}, Instant.ofMillis? t.millis = some t →
      integerKey? (dateKey t).1 = some t.millis := by
    intro t ht
    rw [Instant.ofMillis?_eq] at ht
    split_ifs at ht with hrange
    refine integerKey?_ofInt ?_ ?_
    · exact le_trans (by decide) hrange.1
    · exact hrange.2.trans_le (by decide)
  rw [dateGap?, hkey ht, hkey hu]
  dsimp only
  rw [ht, hu]

theorem between_dateKey {field : String} {interval : Interval} {t u : Instant}
    (ht : Instant.ofMillis? t.millis = some t) (hu : Instant.ofMillis? u.millis = some u)
    {limit : Nat} {starts : List Instant}
    (h : dateStarts? interval u limit t [] = some starts) :
    Between (.date field interval) (dateKey t).1 (dateKey u).1 (starts.map dateKey) := by
  refine ⟨limit, ?_⟩
  rw [between?, dateGap?_dateKey interval ht hu, h, Option.map_some]

/-- A limit decides whether there are keys, not which ones. -/
theorem dateStarts?_of_length {interval : Interval} {stop cursor : Instant} {room : Nat}
    {found starts : List Instant}
    (h : dateStarts? interval stop room cursor found = some starts) :
    found.length ≤ starts.length ∧ starts.length ≤ found.length + room ∧
      ∀ other, starts.length ≤ found.length + other →
        dateStarts? interval stop other cursor found = some starts := by
  induction room generalizing cursor found with
  | zero =>
    unfold dateStarts? at h
    split at h
    · cases h
    · rename_i next hnext
      split_ifs at h with hbefore
      cases h
      refine ⟨by simp, by simp, fun other _ => ?_⟩
      cases other <;> simp [dateStarts?, hnext, hbefore]
  | succ room ih =>
    unfold dateStarts? at h
    split at h
    · cases h
    · rename_i next hnext
      split_ifs at h with hbefore
      · obtain ⟨hmore, hroom, hother⟩ := ih h
        rw [List.length_cons] at hmore hroom
        refine ⟨by omega, by omega, fun other hfits => ?_⟩
        obtain ⟨other, rfl⟩ : ∃ o, other = o + 1 := ⟨other - 1, by omega⟩
        unfold dateStarts?
        simp only [hnext, hbefore, if_true]
        exact hother other (by rw [List.length_cons]; omega)
      · cases h
        refine ⟨by simp, by simp, fun other _ => ?_⟩
        cases other <;> simp [dateStarts?, hnext, hbefore]

theorem length_of_mapM {α β : Type} {f : α → Option β} {as : List α} {bs : List β}
    (h : as.mapM f = some bs) : bs.length = as.length := by
  induction as generalizing bs with
  | nil =>
    cases h
    rfl
  | cons a as ih =>
    rw [List.mapM_cons] at h
    obtain ⟨b, _, h⟩ := Option.bind_eq_some_iff.mp h
    obtain ⟨rest, hrest, h⟩ := Option.bind_eq_some_iff.mp h
    cases h
    rw [List.length_cons, List.length_cons, ih hrest]

variable {key : BucketKey} {empty : List (String × AggregationResult)}

/-- A limit leaves the keys between two keys as they are, or leaves none when there are more. -/
theorem between?_eq_some {prev next : Json} {limit : Nat} {keys : List Key} :
    between? key prev next limit = some keys ↔
      Between key prev next keys ∧ keys.length ≤ limit := by
  -- whatever the limit, keys that are found do not exceed it, and any other one that they do not
  -- exceed finds them as well
  have hlimits : ∀ limit, between? key prev next limit = some keys → keys.length ≤ limit ∧
      ∀ other, keys.length ≤ other → between? key prev next other = some keys := by
    intro limit h
    cases key with
    | date field interval =>
      simp only [between?, dateGap?] at h ⊢
      split at h
      · split at h
        · obtain ⟨starts, hstarts, rfl⟩ := Option.map_eq_some_iff.mp h
          obtain ⟨_, hroom, hother⟩ := dateStarts?_of_length hstarts
          simp only [List.length_map, List.length_nil, Nat.zero_add] at *
          exact ⟨hroom, fun other hfits => by rw [hother other hfits]; rfl⟩
        · cases h
          simp
      · cases h
        simp
    | number field width =>
      simp only [between?, numberGap?] at h ⊢
      split at h
      · split at h
        · cases h
        · rename_i steps hsteps
          split_ifs at h with hfits
          have hlength := length_of_mapM h
          rw [List.length_range] at hlength
          refine ⟨by omega, fun other hother => ?_⟩
          rw [if_neg (by omega), h]
      · cases h
        simp
    | value field =>
      cases h
      simp [between?]
  constructor
  · intro h
    exact ⟨⟨limit, h⟩, (hlimits limit h).1⟩
  · rintro ⟨⟨other, h⟩, hfits⟩
    exact (hlimits other h).2 limit hfits

theorem Between.unique {prev next : Json} {keys others : List Key}
    (h : Between key prev next keys) (h' : Between key prev next others) : keys = others := by
  have hkeys := between?_eq_some.mpr ⟨h, Nat.le_max_left keys.length others.length⟩
  rw [between?_eq_some.mpr ⟨h', Nat.le_max_right _ _⟩] at hkeys
  cases hkeys
  rfl

theorem Continues.unique {prev : Json} {delivered : List Bucket} {entries others : List Entry}
    (h : Continues key prev delivered entries) (h' : Continues key prev delivered others) :
    entries = others := by
  induction h generalizing others with
  | nil =>
    cases h'
    rfl
  | cons hbetween _ ih =>
    cases h' with
    | cons hbetween' hrest' => rw [hbetween.unique hbetween', ih hrest']

/-- Buckets that were delivered leave one way to complete their level. -/
theorem Completes.unique {delivered : List Bucket} {entries others : List Entry}
    (h : Completes key delivered entries) (h' : Completes key delivered others) :
    entries = others := by
  cases h with
  | nil =>
    cases h'
    rfl
  | cons h =>
    cases h' with
    | cons h' => rw [h.unique h']

/-! ## Places with room after them -/

/-- Whether, after some buckets, each empty bucket leaves room for one more. -/
def Fits (before : Nat) (entries : List Entry) : Prop :=
  ∀ key, .inserted key ∉ entries.drop (maxBuckets - 1 - before)

theorem fits_delivered (before : Nat) (bucket : Bucket) (entries : List Entry) :
    Fits before (.delivered bucket :: entries) ↔ Fits (before + 1) entries := by
  unfold Fits
  rw [Nat.sub_add_eq]
  cases maxBuckets - 1 - before with
  | zero => simp
  | succ room => simp

theorem fits_inserted_append (before : Nat) (keys : List Key) (entries : List Entry) :
    Fits before (keys.map .inserted ++ entries) ↔
      (keys = [] ∨ before + keys.length < maxBuckets) ∧ Fits (before + keys.length) entries := by
  have hkeys : (∀ key, Entry.inserted key ∉ (keys.map Entry.inserted).drop
      (maxBuckets - 1 - before)) ↔ keys = [] ∨ before + keys.length < maxBuckets := by
    have hroom : keys.drop (maxBuckets - 1 - before) = [] ↔
        keys = [] ∨ before + keys.length < maxBuckets := by
      rw [List.drop_eq_nil_iff, ← List.length_eq_zero_iff, maxBuckets]
      omega
    rw [← hroom, ← List.map_drop, List.eq_nil_iff_forall_not_mem]
    simp only [List.mem_map, Entry.inserted.injEq, exists_eq_right]
  unfold Fits
  rw [← hkeys, Nat.sub_add_eq, ← forall_and]
  simp only [List.drop_append, List.length_map, List.mem_append, not_or]

/-- Empty buckets are added where they all have room. -/
theorem addEmpty?_eq (filled : Filled) (keys : List Key) :
    addEmpty? empty filled keys =
      if keys = [] ∨ filled.size + keys.length < maxBuckets then
        some ⟨(keys.map fun k => (Entry.inserted k).bucket empty).reverse ++ filled.buckets,
          filled.size + keys.length⟩
      else none := by
  induction keys generalizing filled with
  | nil => rfl
  | cons k keys ih =>
    obtain ⟨k, text⟩ := k
    rw [addEmpty?, ih]
    have hroom : filled.size + 1 < maxBuckets ∧
        (keys = [] ∨ filled.size + 1 + keys.length < maxBuckets) ↔
        (k, text) :: keys = [] ∨ filled.size + ((k, text) :: keys).length < maxBuckets := by
      rw [← List.length_eq_zero_iff, List.length_cons]
      simp only [reduceCtorEq, false_or]
      omega
    rw [← if_congr hroom rfl rfl, ite_and, List.length_cons, List.map_cons, List.reverse_cons,
      List.append_assoc, Nat.add_assoc, Nat.add_comm 1]
    rfl

/-- One more bucket stands after the keys between it and the one before, where they fit. -/
theorem add?_eq_some {prev bucket : Bucket} {older : List Bucket} {size : Nat} {after : Filled} :
    add? key empty ⟨prev :: older, size⟩ bucket = some after ↔
      ∃ keys, Between key prev.1.key bucket.1.key keys ∧
        (keys = [] ∨ size + keys.length < maxBuckets) ∧
        after = ⟨bucket :: (keys.map fun k => (Entry.inserted k).bucket empty).reverse ++
          prev :: older, size + keys.length + 1⟩ := by
  have hadd : add? key empty ⟨prev :: older, size⟩ bucket =
      ((between? key prev.1.key bucket.1.key maxBuckets).bind
        (addEmpty? empty ⟨prev :: older, size⟩)).bind
          fun filled => some ⟨bucket :: filled.buckets, filled.size + 1⟩ := rfl
  rw [hadd]
  constructor
  · intro h
    obtain ⟨filled, hfilled, h⟩ := Option.bind_eq_some_iff.mp h
    obtain ⟨keys, hkeys, hfilled⟩ := Option.bind_eq_some_iff.mp hfilled
    rw [addEmpty?_eq] at hfilled
    split_ifs at hfilled with hroom
    cases hfilled
    cases h
    exact ⟨keys, (between?_eq_some.mp hkeys).1, hroom, rfl⟩
  · rintro ⟨keys, hbetween, hroom, rfl⟩
    have hfits : keys.length ≤ maxBuckets := by
      rw [← List.length_eq_zero_iff] at hroom
      omega
    rw [between?_eq_some.mpr ⟨hbetween, hfits⟩, Option.bind_some, addEmpty?_eq, if_pos hroom,
      Option.bind_some]
    rfl

/-- The places after a bucket are filled where the empty ones among them have room. -/
theorem foldlM_add?_eq_some {prev : Bucket} {older rest : List Bucket} {size : Nat}
    {after : Filled} :
    rest.foldlM (add? key empty) ⟨prev :: older, size⟩ = some after ↔
      ∃ entries, Continues key prev.1.key rest entries ∧ Fits size entries ∧
        after = ⟨(entries.map (Entry.bucket empty)).reverse ++ prev :: older,
          size + entries.length⟩ := by
  induction rest generalizing prev older size with
  | nil =>
    constructor
    · intro h
      cases h
      exact ⟨[], .nil _, by simp [Fits], rfl⟩
    · rintro ⟨entries, hplaces, _, rfl⟩
      cases hplaces
      rfl
  | cons bucket rest ih =>
    rw [List.foldlM_cons]
    constructor
    · intro h
      obtain ⟨filled, hadd, h⟩ := Option.bind_eq_some_iff.mp h
      obtain ⟨keys, hbetween, hroom, rfl⟩ := add?_eq_some.mp hadd
      obtain ⟨entries, hplaces, hfits, rfl⟩ := ih.mp h
      refine ⟨_, .cons hbetween hplaces, ?_, ?_⟩
      · rw [fits_inserted_append, fits_delivered]
        exact ⟨hroom, hfits⟩
      · simp [Entry.bucket, Function.comp_def]
        omega
    · rintro ⟨entries, hplaces, hfits, rfl⟩
      cases hplaces with
      | @cons _ _ keys _ entries hbetween hplaces =>
        rw [fits_inserted_append, fits_delivered] at hfits
        refine Option.bind_eq_some_iff.mpr ⟨_, add?_eq_some.mpr ⟨keys, hbetween, hfits.1, rfl⟩,
          ih.mpr ⟨entries, hplaces, hfits.2, ?_⟩⟩
        simp [Entry.bucket, Function.comp_def]
        omega

/-- Filling the gaps of a level shows its places where the empty ones have room. -/
theorem fill?_eq_some {buckets shown : List Bucket} :
    fill? key empty buckets = some shown ↔
      ∃ entries, Completes key buckets entries ∧ Fits 0 entries ∧
        shown = entries.map (Entry.bucket empty) := by
  cases buckets with
  | nil =>
    constructor
    · intro h
      cases h
      exact ⟨[], .nil, by simp [Fits], rfl⟩
    · rintro ⟨entries, hplaces, _, rfl⟩
      cases hplaces
      rfl
  | cons bucket rest =>
    have hfill : fill? key empty (bucket :: rest) =
        (rest.foldlM (add? key empty) ⟨[bucket], 1⟩).map fun filled => filled.buckets.reverse := rfl
    rw [hfill, Option.map_eq_some_iff]
    constructor
    · rintro ⟨after, h, rfl⟩
      obtain ⟨entries, hplaces, hfits, rfl⟩ := foldlM_add?_eq_some.mp h
      exact ⟨_, .cons hplaces, (fits_delivered 0 bucket entries).mpr hfits, by simp [Entry.bucket]⟩
    · rintro ⟨entries, hplaces, hfits, rfl⟩
      cases hplaces with
      | cons hplaces =>
        rw [fits_delivered] at hfits
        exact ⟨_, foldlM_add?_eq_some.mpr ⟨_, hplaces, hfits, rfl⟩, by simp [Entry.bucket]⟩

/-! ## What is shown -/

/-- The bucket of a place that was delivered. -/
def Entry.delivered? : Entry → Option Bucket
  | .delivered bucket => some bucket
  | .inserted _ => none

theorem Continues.filterMap_delivered? {prev : Json} {delivered : List Bucket}
    {entries : List Entry} (h : Continues key prev delivered entries) :
    entries.filterMap Entry.delivered? = delivered := by
  induction h with
  | nil => rfl
  | cons _ _ ih =>
    rw [List.filterMap_append, List.filterMap_map, List.filterMap_cons, ih]
    simp [Function.comp_def, Entry.delivered?]

/-- The places hold the buckets that were delivered, in their order. -/
theorem Completes.filterMap_delivered? {delivered : List Bucket} {entries : List Entry}
    (h : Completes key delivered entries) : entries.filterMap Entry.delivered? = delivered := by
  cases h with
  | nil => rfl
  | cons h => simp [Entry.delivered?, h.filterMap_delivered?]

theorem Continues.eq_concat {prev : Json} {delivered : List Bucket} {entries : List Entry}
    (h : Continues key prev delivered entries) :
    entries = [] ∨ ∃ first last, entries = first ++ [.delivered last] := by
  induction h with
  | nil => exact Or.inl rfl
  | @cons _ bucket keys _ entries _ _ ih =>
    right
    rcases ih with rfl | ⟨first, last, rfl⟩
    · exact ⟨keys.map .inserted, bucket, rfl⟩
    · exact ⟨keys.map .inserted ++ .delivered bucket :: first, last, by simp⟩

/-- The last place is one of a bucket that was delivered. -/
theorem Completes.eq_concat {delivered : List Bucket} {entries : List Entry}
    (h : Completes key delivered entries) :
    entries = [] ∨ ∃ first last, entries = first ++ [.delivered last] := by
  cases h with
  | nil => exact Or.inl rfl
  | @cons bucket _ _ h =>
    right
    rcases h.eq_concat with rfl | ⟨first, last, rfl⟩
    · exact ⟨[], bucket, rfl⟩
    · exact ⟨.delivered bucket :: first, last, rfl⟩

/-- Empty buckets have room wherever all buckets together do. -/
theorem Completes.fits_of_length_le {delivered : List Bucket} {entries : List Entry}
    (h : Completes key delivered entries) (hlength : entries.length ≤ maxBuckets) :
    Fits 0 entries := by
  intro k hk
  rcases h.eq_concat with rfl | ⟨first, last, rfl⟩
  · simp at hk
  · rw [List.drop_append, List.mem_append] at hk
    rcases hk with hk | hk
    · rw [List.length_append, List.length_singleton] at hlength
      rw [List.drop_eq_nil_of_le (by omega)] at hk
      cases hk
    · have hlast := List.mem_singleton.mp (List.mem_of_mem_drop hk)
      cases hlast

/-- Where empty buckets have room, the last place of a full level and those after it are taken by
the last buckets that were delivered. -/
theorem Completes.drop_suffix {delivered : List Bucket} {entries : List Entry}
    (h : Completes key delivered entries) (hfits : Fits 0 entries) :
    (entries.map (Entry.bucket empty)).drop (maxBuckets - 1) <:+ delivered := by
  have hlast : ∀ last : List Entry, (∀ k, Entry.inserted k ∉ last) →
      last.map (Entry.bucket empty) = last.filterMap Entry.delivered? := by
    intro last hlast
    rw [← List.filterMap_eq_map]
    refine List.filterMap_congr fun entry hentry => ?_
    cases entry with
    | delivered bucket => rfl
    | inserted k => exact absurd hentry (hlast k)
  rw [← List.map_drop, hlast (entries.drop (maxBuckets - 1)) hfits, ← h.filterMap_delivered?]
  exact (List.drop_suffix _ _).filterMap _

end Gaps

namespace Mapper

open Gaps (maxBuckets Completes Entry Fits)

/-- The buckets that are delivered for a level below a path. -/
def deliveredBuckets (plan : BucketPlan) (children : List AggregationPlan) (level : Nat)
    (path : List Json) : Walk (List Bucket) := do
  let (rows, taken) ← takeRows plan.name level path
  taken.mapM fun row => do
    let (head, raw) ← bucketHead plan rows row
    let results ← aggregations (level + 1) (path ++ [raw]) rows.table row children
    pure (head, membersOf results)

section

variable {plan : BucketPlan} {children : List AggregationPlan} {level : Nat} {path : List Json}
  {table : Table} {row : Row} {levels after : Levels}

/-- The buckets of a level are delivered, and then finished. -/
theorem aggregation_bucket (plan : BucketPlan) (children : List AggregationPlan) (level : Nat)
    (path : List Json) (table : Table) (row : Row) :
    aggregation level path table row (.bucket plan children) = (do
      let buckets ← deliveredBuckets plan children level path
      finish plan children buckets) := by
  rw [aggregation, deliveredBuckets, bind_assoc]

/-- A level that shows no empty buckets gives those that are delivered. -/
theorem run_bucket_shown {delivered : List Bucket}
    (h : (aggregation level path table row
      (.bucket { plan with minDocCount := 1 } children)).run levels =
        .ok (.buckets delivered, after)) :
    (deliveredBuckets plan children level path).run levels = .ok (delivered, after) := by
  rw [aggregation_bucket] at h
  obtain ⟨buckets, last, hbuckets, h⟩ := Outcome.run_bind_eq_ok.mp h
  obtain ⟨hfinish, rfl⟩ := Outcome.run_lift_eq_ok.mp h
  cases hfinish
  exact hbuckets

/-- What is delivered for a level decides what it gives. -/
theorem run_bucket (table : Table) (row : Row) {delivered : List Bucket}
    (h : (deliveredBuckets plan children level path).run levels = .ok (delivered, after)) :
    (aggregation level path table row (.bucket plan children)).run levels =
      (finish plan children delivered).map fun given => (given, after) := by
  rw [aggregation_bucket, StateT.run_bind, h]
  show (liftM (finish plan children delivered) : Walk AggregationResult).run after = _
  cases finish plan children delivered <;> rfl

/-- A level that shows its empty buckets has one of three ends. Either its empty buckets all leave
room for one more: then the level is shown with them, and from the last place of a full level on
it shows the last buckets that were delivered. Or there are more places than a level may have, an
empty bucket among them without room after it: then the whole mapping is refused. Or the gap
between two dates is to be walked in steps that no duration is long enough for, which no interval
that is read asks for. -/
theorem aggregation_completed {delivered : List Bucket} (hshown : plan.minDocCount = 0)
    (hdelivered : (aggregation level path table row
      (.bucket { plan with minDocCount := 1 } children)).run levels =
        .ok (.buckets delivered, after)) :
    (∃ entries shown, Completes plan.key delivered entries ∧ Fits 0 entries ∧
      shown = entries.map (Entry.bucket (emptyResults children)) ∧
      shown.drop (maxBuckets - 1) <:+ delivered ∧
      (aggregation level path table row (.bucket plan children)).run levels =
        .ok (.buckets shown, after)) ∨
    (aggregation level path table row (.bucket plan children)).run levels =
        .error (.failure (Gaps.tooMany plan)) ∧
      (∀ entries, Completes plan.key delivered entries →
        maxBuckets < entries.length ∧ ¬ Fits 0 entries) ∨
    Gaps.overlong plan.key delivered = true ∧
      (aggregation level path table row (.bucket plan children)).run levels =
        .error (.fault .durationOutOfRange) := by
  have hrun := run_bucket table row (run_bucket_shown hdelivered)
  cases hlong : Gaps.overlong plan.key delivered with
  | true =>
    rw [finish_eq_error.mpr ⟨hshown, Or.inl ⟨hlong, rfl⟩⟩] at hrun
    exact Or.inr (Or.inr ⟨rfl, hrun⟩)
  | false =>
  cases hfill : Gaps.fill? plan.key (emptyResults children) delivered with
  | some shown =>
    obtain ⟨entries, hplaces, hfits, hentries⟩ := Gaps.fill?_eq_some.mp hfill
    rw [finish_eq_ok.mpr (Or.inr ⟨hshown, hlong, shown, hfill, rfl⟩)] at hrun
    refine Or.inl ⟨entries, shown, hplaces, hfits, hentries, ?_, hrun⟩
    rw [hentries]
    exact hplaces.drop_suffix hfits
  | none =>
    rw [finish_eq_error.mpr ⟨hshown, Or.inr ⟨hlong, hfill, rfl⟩⟩] at hrun
    refine Or.inr (Or.inl ⟨hrun, fun entries hplaces => ?_⟩)
    have hfits : ¬ Fits 0 entries := by
      intro hfits
      rw [Gaps.fill?_eq_some.mpr ⟨entries, hplaces, hfits, rfl⟩] at hfill
      cases hfill
    refine ⟨?_, hfits⟩
    by_contra hlength
    exact hfits (hplaces.fits_of_length_le (by omega))

end

/-- Levels that show their empty buckets, where these have room. -/
def Reading.completed : Reading where
  metric _ _ _ _ := True
  head _ _ _ _ := True
  level plan children delivered given := plan.minDocCount = 0 → ∃ entries,
    Completes plan.key delivered entries ∧ Fits 0 entries ∧
      given = .buckets (entries.map (Entry.bucket (emptyResults children)))

theorem exact_implies_completed : Reading.exact.Implies .completed where
  metric _ := trivial
  head _ := trivial
  level := by
    intro plan children delivered given hfinish hshown
    rcases finish_eq_ok.mp hfinish with ⟨hne, _⟩ | ⟨_, _, shown, hfill, rfl⟩
    · exact absurd hshown hne
    · obtain ⟨entries, hplaces, hfits, rfl⟩ := Gaps.fill?_eq_some.mp hfill
      exact ⟨entries, hplaces, hfits, rfl⟩

/-- In a response every level that shows its empty buckets, below every bucket, is completed with
room for each of them. -/
theorem response_completed {layout : Layout} {result : Result} {plan : Plan} {took : Nat}
    {ids : Nat → String} {response : Response}
    (h : plan.response layout result took ids = .ok response)
    {results : List (String × AggregationResult)}
    (hresults : response.aggregations = some results) :
    ∃ given, results = membersOf given ∧
      ReadFromTop .completed layout result (layout.metrics.bind result.table?) 0 plan.aggregations
        given := by
  rcases response_readFrom h with ⟨_, hnone⟩ | ⟨_, given, hgiven, hread⟩
  · rw [hnone] at hresults
    cases hresults
  · rw [hgiven] at hresults
    cases hresults
    exact ⟨given, rfl, hread.imp exact_implies_completed⟩

/-- Buckets of a second each, empty ones shown. -/
def secondsPlan : BucketPlan := ⟨"s", .date "at" (.fixed 1000), .keyAsc, none, 0⟩

/-- Two seconds with one more between them. -/
def secondsLevel : LevelRows :=
  let rows := [[.string "2024-01-01T00:00:00Z", Json.ofNat 1],
    [.string "2024-01-01T00:00:02Z", Json.ofNat 4]]
  ⟨⟨"agg0", [⟨"s", .timestamp⟩, ⟨"doc_count", .number⟩], rows⟩, 0, 1, [("[]", rows)]⟩

/-- The bucket of one of the first seconds of 2024. -/
def secondsBucket (second : Nat) (docCount : Nat) : Bucket :=
  let key := Gaps.dateKey ⟨1704067200 + second, 0⟩
  (⟨key.1, key.2, docCount⟩, [])

/-- The second in between is shown, and all three have room. -/
theorem aggregation_completed_seconds :
    secondsPlan.minDocCount = 0 ∧
    (aggregation 0 [] noTable [] (.bucket { secondsPlan with minDocCount := 1 } [])).run
      [secondsLevel] = .ok (.buckets [secondsBucket 0 1, secondsBucket 2 4],
        [{ secondsLevel with groups := [] }]) ∧
    (aggregation 0 [] noTable [] (.bucket secondsPlan [])).run [secondsLevel] =
      .ok (.buckets [secondsBucket 0 1, secondsBucket 1 0, secondsBucket 2 4],
        [{ secondsLevel with groups := [] }]) := by
  have hdelivered : (aggregation 0 [] noTable []
      (.bucket { secondsPlan with minDocCount := 1 } [])).run [secondsLevel] =
      .ok (.buckets [secondsBucket 0 1, secondsBucket 2 4],
        [{ secondsLevel with groups := [] }]) := by rfl
  have hbetween : Gaps.Between secondsPlan.key (secondsBucket 0 1).1.key (secondsBucket 2 4).1.key
      [Gaps.dateKey ⟨1704067201, 0⟩] := by
    have hstarts : Gaps.dateStarts? (.fixed 1000) ⟨1704067202, 0⟩ 1 ⟨1704067200, 0⟩ [] =
        some [⟨1704067201, 0⟩] := by decide
    exact Gaps.between_dateKey (t := ⟨1704067200, 0⟩) (u := ⟨1704067202, 0⟩) (by decide)
      (by decide) hstarts
  have hplaces : Completes secondsPlan.key [secondsBucket 0 1, secondsBucket 2 4]
      [.delivered (secondsBucket 0 1), .inserted (Gaps.dateKey ⟨1704067201, 0⟩),
        .delivered (secondsBucket 2 4)] := .cons (.cons hbetween (.nil _))
  refine ⟨rfl, hdelivered, ?_⟩
  rcases aggregation_completed (show secondsPlan.minDocCount = 0 from rfl) hdelivered with
    ⟨entries, shown, hentries, _, hshown, _, hrun⟩ | ⟨_, hfull⟩ | ⟨hlong, _⟩
  · rw [hrun, hshown, hentries.unique hplaces]
    rfl
  · exact absurd (hfull _ hplaces).1 (by simp [maxBuckets])
  · cases hlong

end Mapper

end KustoSearch
