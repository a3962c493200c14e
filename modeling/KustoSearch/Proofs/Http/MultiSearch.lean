import KustoSearch.Http.Exchange
import KustoSearch.Proofs.Request.MultiSearch
import KustoSearch.Proofs.Service.Concurrent

/-! # Exchanges of several searches

The answer to several searches has one item for each of them, and this is what the search comes to
on its own, whatever the others do. There is one exception: a search that stops while its result
is mapped takes the whole answer with it. Main result: `Service.multiSearch_alone`.
-/

namespace KustoSearch.Http

open MultiSearch (Decodes Malformed Pairs)

/-- The item of a search that comes to a response or to a failure. -/
theorem exists_item {outcome : Except Stop Response}
    (h : ∀ fault, outcome ≠ .error (.fault fault)) : ∃ json, item outcome = .ok json := by
  cases outcome with
  | ok response => exact ⟨response.json, rfl⟩
  | error stop =>
    cases stop with
    | failure failure => exact ⟨failure.json, rfl⟩
    | fault fault => exact absurd rfl (h fault)

namespace Service

variable (service : Service) (index : String)

/-- The run of one of several searches on its own: on the index that its header names, else on
that of the path. -/
def alone (entry : MultiSearchEntry) (call : Nat) : Run :=
  service.toScheme.alone (entry.index.getD index) entry.body call

/-- Whether one of several searches stops while its result is mapped. -/
def Stops (entry : MultiSearchEntry) : Prop :=
  ∃ fault, (service.alone index entry 0).outcome = .error (.fault fault)

/-- Whether outcomes are those of searches on their own, in order. -/
def AsAlone (entries : List MultiSearchEntry) (outcomes : List (Except Stop Response)) : Prop :=
  List.Forall₂ (fun entry outcome => ∃ call, outcome = (service.alone index entry call).outcome)
    entries outcomes

variable {service : Service} {index : String}

theorem ne_fault_of_not_stops (hengine : service.engine.RepliesAlike) {entry : MultiSearchEntry}
    (h : ¬service.Stops index entry) (call : Nat) (fault : Fault) :
    (service.alone index entry call).outcome ≠ .error (.fault fault) := fun hfault =>
  h ⟨fault, Scheme.outcome_alone_eq_error hengine _ _ hfault 0⟩

/-- Searches that do not stop have their items. -/
theorem exists_items (hengine : service.engine.RepliesAlike) {entries : List MultiSearchEntry}
    {outcomes : List (Except Stop Response)}
    (hstops : ∀ entry ∈ entries, ¬service.Stops index entry)
    (houtcomes : service.AsAlone index entries outcomes) :
    ∃ items, outcomes.mapM item = .ok items ∧ List.Forall₂
      (fun entry json => ∃ call, item (service.alone index entry call).outcome = .ok json)
      entries items := by
  induction houtcomes with
  | nil => exact ⟨[], rfl, .nil⟩
  | @cons entry outcome entries outcomes hfirst _ ih =>
    obtain ⟨call, rfl⟩ := hfirst
    obtain ⟨json, hjson⟩ :=
      exists_item (ne_fault_of_not_stops hengine (hstops entry List.mem_cons_self) call)
    obtain ⟨items, hitems, halone⟩ := ih fun e he => hstops e (List.mem_cons_of_mem _ he)
    refine ⟨json :: items, ?_, .cons ⟨call, hjson⟩ halone⟩
    exact Outcome.mapM_eq_ok.mpr (.cons hjson (Outcome.mapM_eq_ok.mp hitems))

theorem fault_mem_of_stops (hengine : service.engine.RepliesAlike)
    {entries : List MultiSearchEntry} {outcomes : List (Except Stop Response)}
    {entry : MultiSearchEntry} {fault : Fault} (hentry : entry ∈ entries)
    (hfault : (service.alone index entry 0).outcome = .error (.fault fault))
    (houtcomes : service.AsAlone index entries outcomes) : .error (.fault fault) ∈ outcomes := by
  induction houtcomes with
  | nil => cases hentry
  | cons hfirst _ ih =>
    rcases List.mem_cons.mp hentry with rfl | hentry
    · obtain ⟨call, rfl⟩ := hfirst
      rw [alone, Scheme.outcome_alone_eq_error hengine _ _ hfault call]
      exact List.mem_cons_self
    · exact List.mem_cons_of_mem _ (ih hentry)

/-- A search that stops has no item, and then there are no items at all. -/
theorem exists_fault_of_stops (hengine : service.engine.RepliesAlike)
    {entries : List MultiSearchEntry} {outcomes : List (Except Stop Response)}
    {entry : MultiSearchEntry} (hentry : entry ∈ entries) (hstops : service.Stops index entry)
    (houtcomes : service.AsAlone index entries outcomes) :
    ∃ fault, outcomes.mapM item = .error fault := by
  obtain ⟨own, hown⟩ := hstops
  have hmem := fault_mem_of_stops hengine hentry hown houtcomes
  cases hitems : outcomes.mapM item with
  | error fault => exact ⟨fault, rfl⟩
  | ok items =>
    obtain ⟨json, hjson⟩ := Outcome.exists_of_mem_of_mapM_eq_ok hitems hmem
    cases hjson

/-- Several searches are answered as if each were alone: one item for each, in order, and together
they take as long as the longest one. Where one of them stops while its result is mapped there is
no answer. A document that holds no searches is refused and counted once, and nothing is sent. -/
theorem multiSearch_alone (service : Service) (index : String) (bytes : List UInt8)
    (hengine : service.engine.RepliesAlike) :
    (∀ entries, Decodes bytes entries →
      ((∀ entry ∈ entries, ¬service.Stops index entry) →
        ∃ took items trace,
          service.multiSearch index bytes =
            .ok ⟨.ofJson 200 (multiSearchJson took items), trace⟩ ∧
          List.Forall₂
            (fun entry json => ∃ call, item (service.alone index entry call).outcome = .ok json)
            entries items ∧
          (entries.map fun entry => (service.alone index entry 0).duration).max? = some took) ∧
      ((∃ entry ∈ entries, service.Stops index entry) →
        ∃ fault, service.multiSearch index bytes = .error fault)) ∧
    (Malformed bytes → ∃ failure : Failure, failure.kind = .malformedQuery ∧
      service.multiSearch index bytes =
        .ok ⟨.ofFailure failure, ⟨[], [.failed .malformedQuery .controller]⟩⟩) := by
  refine ⟨fun entries hentries => ?_, fun hmalformed => ?_⟩
  · have hread := MultiSearch.read_eq_ok_iff.mpr hentries
    have hsome : entries.map (fun entry => (entry.index.getD index, entry.body)) ≠ [] := by
      simpa using hentries.nonempty
    obtain ⟨houtcomes, hduration⟩ := @Gathering.alone_run service.toScheme hengine _ hsome
    have hasAlone : service.AsAlone index entries _ := List.forall₂_map_left_iff.mp houtcomes
    rw [List.map_map] at hduration
    unfold multiSearch
    rw [hread]
    constructor
    · intro hstops
      obtain ⟨items, hitems, halone⟩ := exists_items hengine hstops hasAlone
      refine ⟨_, items, _, Outcome.bind_eq_ok.mpr ⟨items, hitems, rfl⟩, halone, hduration⟩
    · rintro ⟨entry, hentry, hstops⟩
      obtain ⟨fault, hfault⟩ := exists_fault_of_stops hengine hentry hstops hasAlone
      exact ⟨fault, Outcome.bind_eq_error.mpr (Or.inl hfault)⟩
  · obtain ⟨failure, hfailure⟩ := MultiSearch.exists_error_iff.mpr hmalformed
    have hkind := MultiSearch.kind_of_read hfailure
    refine ⟨failure, hkind, ?_⟩
    unfold multiSearch
    rw [hfailure, ← hkind]
    rfl

end Service

/-- A search for hits that does not count them. -/
def hitsOnly : MultiSearchEntry := ⟨none, .object [("track_total_hits", .bool false)]⟩

/-- A search for hits that counts them too. -/
def hitsAndCount : MultiSearchEntry := ⟨none, .object []⟩

/-- A service whose engine always has the same result, with a count that is cut off. -/
def cutOffService : Service where
  settings := ⟨"db", 10⟩
  retry := ⟨0, 200⟩
  engine := fun _ _ => ⟨some 5, .ok ⟨[
    ⟨"hits", [⟨"x", .string⟩], [[.string "a"]]⟩,
    ⟨"hitsTotal", [⟨"x", .string⟩, ⟨"Count", .number⟩], [[.string "a"]]⟩], 64, none⟩⟩
  ids := fun _ _ => "id"
  bodyLimit := 1000

/-- The first search on its own. -/
def oneSearch : List UInt8 :=
  "\x7b\x7d\n\x7b\"track_total_hits\":false\x7d\r\n".toUTF8.toList

/-- Both searches, with a blank line between them. -/
def bothSearches : List UInt8 :=
  "\x7b\x7d\n\x7b\"track_total_hits\":false\x7d\n\n\x7b\x7d\n\x7b\x7d".toUTF8.toList

/-- A header that names no index, or the body of a search for everything. -/
def emptyLine : List Char := "\x7b\x7d".toList

/-- The body of a search for hits that does not count them. -/
def hitsOnlyLine : List Char := "\x7b\"track_total_hits\":false\x7d".toList

theorem header?_emptyLine : MultiSearch.header? emptyLine = some none := rfl

theorem read?_emptyLine : Json.read? emptyLine = some hitsAndCount.body := rfl

theorem read?_hitsOnlyLine : Json.read? hitsOnlyLine = some hitsOnly.body := by cbv

theorem decodes_oneSearch : Decodes oneSearch [hitsOnly] := by
  have htext : Text.Utf8.decode? oneSearch =
      some (emptyLine ++ ['\n'] ++ hitsOnlyLine ++ ['\r', '\n']) := by decide +kernel
  have hpairs : Pairs [emptyLine, hitsOnlyLine] [hitsOnly] :=
    .cons header?_emptyLine read?_hitsOnlyLine .nil
  exact MultiSearch.decodes_of_lines htext hpairs (by simp)

theorem decodes_bothSearches : Decodes bothSearches [hitsOnly, hitsAndCount] := by
  have htext : Text.Utf8.decode? bothSearches =
      some (emptyLine ++ ['\n'] ++ hitsOnlyLine ++ ['\n', '\n'] ++ emptyLine ++ ['\n'] ++
        emptyLine) := by decide +kernel
  have hpairs : Pairs [emptyLine, hitsOnlyLine, emptyLine, emptyLine] [hitsOnly, hitsAndCount] :=
    .cons header?_emptyLine read?_hitsOnlyLine (.cons header?_emptyLine read?_emptyLine .nil)
  exact MultiSearch.decodes_of_lines htext hpairs (by simp)

/-- The first search is answered where it comes alone, and not beside the one that counts. -/
theorem Service.multiSearch_alone_cutOff :
    cutOffService.engine.RepliesAlike ∧
      (∃ items trace, cutOffService.multiSearch "logs" oneSearch =
        .ok ⟨.ofJson 200 (multiSearchJson 5 items), trace⟩ ∧ items.length = 1) ∧
      ∃ fault, cutOffService.multiSearch "logs" bothSearches = .error fault := by
  have hengine : cutOffService.engine.RepliesAlike := fun _ _ => rfl
  have hresponse : ∃ response, (cutOffService.alone "logs" hitsOnly 0).outcome = .ok response :=
    ⟨_, rfl⟩
  refine ⟨hengine, ?_, ?_⟩
  · obtain ⟨hanswer, _⟩ :=
      (multiSearch_alone cutOffService "logs" _ hengine).1 _ decodes_oneSearch
    obtain ⟨took, items, trace, heq, hitems, htook⟩ := hanswer fun entry hentry => by
      rw [List.mem_singleton.mp hentry]
      rintro ⟨fault, hfault⟩
      obtain ⟨response, hok⟩ := hresponse
      cases hok.symm.trans hfault
    cases htook
    exact ⟨items, trace, heq, hitems.length_eq.symm⟩
  · refine ((multiSearch_alone cutOffService "logs" _ hengine).1 _ decodes_bothSearches).2 ?_
    exact ⟨hitsAndCount, by simp, .cellOutOfRange, rfl⟩

end KustoSearch.Http
