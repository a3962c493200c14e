import KustoSearch.Proofs.Http.MultiSearch
import KustoSearch.Proofs.Service.Redacted

/-! # Details that answers do not show

An answer shows neither the text with which the engine refused a statement nor what the mapper found
wrong with its tables. Main result: on two engines that are alike up to such details on the searches
of a request, the request has the same answer, and each of several searches the same item
(`Service.exchange_confidential`).
-/

namespace KustoSearch.Http

/-- The searches that a document asks for on a route. -/
def Route.searches (body : List UInt8) : Route → List (String × Json)
  | .search index =>
    match document body with
    | .error _ => []
    | .ok json => [(index, json)]
  | .multiSearch index =>
    match MultiSearch.read body with
    | .error _ => []
    | .ok entries => entries.map fun entry => (entry.index.getD index, entry.body)

/-- The searches that a request asks for. -/
def Request.searches (request : Request) : List (String × Json) :=
  match Route.ofTarget? request.target with
  | some (some route) => route.searches request.body
  | _ => []

/-- A service on another engine. -/
def Service.onEngine (service : Service) (engine : Engine) : Service where
  toScheme := service.toScheme.onEngine engine
  bodyLimit := service.bodyLimit

/-- The items of several searches that run together. -/
def Service.items (service : Service) (searches : List (String × Json)) :
    List (Except Fault Json) :=
  (Gathering.run service.toScheme searches).outcomes.map item

theorem item_redacted (outcome : Except Stop Response) :
    item (redacted outcome) = item outcome := by
  rcases outcome with (failure | fault) | response
  · exact congrArg Except.ok failure.json_redacted
  · rfl
  · rfl

theorem item_eq_comp_redacted : item = item ∘ redacted :=
  funext fun outcome => (item_redacted outcome).symm

/-- Outcomes that are the same up to details have the same items. -/
theorem map_item_eq {outcomes others : List (Except Stop Response)}
    (h : outcomes.map redacted = others.map redacted) : outcomes.map item = others.map item := by
  rw [item_eq_comp_redacted, ← List.map_map, ← List.map_map, h]

theorem mapM_item_eq {outcomes others : List (Except Stop Response)}
    (h : outcomes.map redacted = others.map redacted) : outcomes.mapM item = others.mapM item := by
  rw [item_eq_comp_redacted, ← List.mapM_map, ← List.mapM_map, h]

theorem ofFailure_redacted (failure : Failure) :
    Answer.ofFailure failure.redacted = Answer.ofFailure failure := by
  simp [Answer.ofFailure]

namespace Service

variable {service : Service} {engine : Engine}

/-- The answer of a search that has come to its end. -/
def concluded : Except Stop Response → Except Fault Answer
  | .ok response => .ok (.ofJson 200 response.json)
  | .error (.failure f) => .ok (.ofFailure f)
  | .error (.fault f) => .error f

theorem concluded_redacted (outcome : Except Stop Response) :
    concluded (redacted outcome) = concluded outcome := by
  rcases outcome with (failure | fault) | response
  · exact congrArg Except.ok (ofFailure_redacted failure)
  · rfl
  · rfl

theorem answer_search (service : Service) {index : String} {body : List UInt8} {json : Json}
    (h : document body = .ok json) :
    (service.search index body).map Exchange.answer =
      concluded (service.run index json).outcome := by
  unfold search
  rw [h]
  dsimp only
  rcases (service.run index json).outcome with (failure | fault) | response
  · rfl
  · rfl
  · rfl

/-- The answer of several searches that have come to their ends. -/
def gathered (gathering : Gathering) : Except Fault Answer := do
  let items ← gathering.outcomes.mapM item
  .ok (.ofJson 200 (multiSearchJson gathering.duration items))

theorem gathered_eq {gathering twin : Gathering}
    (houtcomes : gathering.outcomes.map redacted = twin.outcomes.map redacted)
    (hduration : gathering.duration = twin.duration) : gathered gathering = gathered twin := by
  unfold gathered
  rw [mapM_item_eq houtcomes, hduration]

theorem answer_multiSearch (service : Service) {index : String} {body : List UInt8}
    {entries : List MultiSearchEntry} (h : MultiSearch.read body = .ok entries) :
    (service.multiSearch index body).map Exchange.answer =
      gathered (Gathering.run service.toScheme ((Route.multiSearch index).searches body)) := by
  unfold multiSearch Route.searches gathered
  rw [h]
  dsimp only
  cases List.mapM item _ <;> rfl

/-- A route has the same answer on engines that are alike on the searches asked for. -/
theorem follow_confidential {route : Route} {body : List UInt8}
    (h : ∀ search ∈ route.searches body,
      service.engine.AlikeOn service.settings search.1 search.2 engine) :
    (service.follow body route).map Exchange.answer =
      ((service.onEngine engine).follow body route).map Exchange.answer := by
  cases route with
  | search index =>
    cases hdocument : document body with
    | error failure =>
      unfold follow search
      rw [hdocument]
    | ok json =>
      have halike := h (index, json) (by simp [Route.searches, hdocument])
      show (service.search index body).map _ = ((service.onEngine engine).search index body).map _
      rw [answer_search service hdocument, answer_search (service.onEngine engine) hdocument,
        ← concluded_redacted, ← concluded_redacted (Run.outcome _)]
      exact congrArg concluded (Scheme.redacted_outcome_run halike)
  | multiSearch index =>
    cases hread : MultiSearch.read body with
    | error failure =>
      unfold follow multiSearch
      rw [hread]
    | ok entries =>
      have hlook := Gathering.looksLike_run h
      show (service.multiSearch index body).map _ =
        ((service.onEngine engine).multiSearch index body).map _
      rw [answer_multiSearch service hread, answer_multiSearch (service.onEngine engine) hread]
      exact gathered_eq hlook.outcomes_eq hlook.duration_eq

/-- Details that are for the service alone reach no caller: on two engines that differ in the texts
of refusals and in tables that do not fit, and in nothing else that matters to the searches of a
request, the request has the same answer, status and body, and every one of several searches has
the same item. -/
theorem exchange_confidential (service : Service) (engine : Engine) (request : Request)
    (h : ∀ search ∈ request.searches,
      service.engine.AlikeOn service.settings search.1 search.2 engine) :
    (service.exchange request).map Exchange.answer =
        ((service.onEngine engine).exchange request).map Exchange.answer ∧
      service.items request.searches = (service.onEngine engine).items request.searches := by
  constructor
  · unfold exchange
    unfold Request.searches at h
    cases hroute : Route.ofTarget? request.target with
    | none => rfl
    | some route? =>
      dsimp only
      by_cases hmethod : request.method ≠ "POST"
      · rw [if_pos hmethod, if_pos hmethod]
      · rw [if_neg hmethod, if_neg hmethod]
        cases route? with
        | none => rfl
        | some route =>
          rw [hroute] at h
          dsimp only
          -- how long a document may be does not depend on the engine
          have hlimit : (service.onEngine engine).bodyLimit = service.bodyLimit := rfl
          rw [hlimit]
          by_cases hlong : service.bodyLimit < request.body.length
          · rw [if_pos hlong, if_pos hlong]
          · rw [if_neg hlong, if_neg hlong]
            exact follow_confidential h
  · exact map_item_eq (Gathering.looksLike_run h).outcomes_eq

/-- A service whose engine refuses the first statement, with a text that names a table, and has no
tables for the others. -/
def tellingService : Service where
  settings := ⟨"db", 10⟩
  retry := ⟨1, 200⟩
  engine n _ := ⟨some 5,
    if n = 0 then .error (.permanent "table 'payroll' is offline") else .ok ⟨[], 64, none⟩⟩
  ids := fun _ _ => "id"
  bodyLimit := 1000

/-- An engine that is as busy, refuses with another text and has a table that nothing asked for. -/
def otherEngine : Engine := fun n _ => ⟨some 5,
  if n = 0 then .error (.permanent "table 'ledger' is offline")
  else .ok ⟨[⟨"ledger", [], []⟩], 32, some 7⟩⟩

/-- Two searches, one answered by each of the replies. -/
def twoSearches : Request := ⟨"POST", "/logs/_msearch", bothSearches⟩

theorem searches_twoSearches :
    twoSearches.searches = [("logs", hitsOnly.body), ("logs", hitsAndCount.body)] := by
  have hroute : Route.ofTarget? twoSearches.target = some (some (.multiSearch "logs")) := by
    decide +kernel
  have hread := MultiSearch.read_eq_ok_iff.mpr decodes_bothSearches
  unfold Request.searches Route.searches
  rw [hroute]
  dsimp only
  rw [show twoSearches.body = bothSearches from rfl, hread]
  rfl

/-- A search that asks for hits has no response without any tables, or with one that it did not ask
for. -/
theorem alikeOn_otherEngine {index : String} {body : Json} {plan : Plan} {batch : Batch}
    (hprepared : Attempt.Prepared tellingService.settings index body plan batch)
    (hhits : batch.layout.hits = some "hits") :
    tellingService.engine.AlikeOn tellingService.settings index body otherEngine := by
  intro plan' batch' hprepared' n
  obtain ⟨rfl, rfl⟩ := hprepared.unique hprepared'
  have hmisfits (result : Result) (hmissing : result.table? "hits" = none) :
      plan.Misfits batch.layout result := by
    refine ⟨0, fun _ => "", "result table " ++ "hits" ++ " is missing", ?_⟩
    rw [Mapper.response_eq, Mapper.hitsOf, hhits]
    simp only [Mapper.requireTable, hmissing]
    rfl
  constructor
  · rfl
  · by_cases hfirst : n = 0
    · subst hfirst
      exact .refused _ _
    · show SameBut _ _ (if n = 0 then _ else _) (if n = 0 then _ else _)
      rw [if_neg hfirst, if_neg hfirst]
      exact .misfitting (hmisfits _ rfl) (hmisfits _ rfl)

/-- The engines differ, and the answer to the two searches does not tell them apart: one item says
that the statement was refused, the other that something went wrong. -/
theorem exchange_confidential_twoSearches :
    tellingService.engine ≠ otherEngine ∧
      (∀ search ∈ twoSearches.searches, tellingService.engine.AlikeOn tellingService.settings
        search.1 search.2 otherEngine) ∧
      (tellingService.exchange twoSearches).map Exchange.answer =
        ((tellingService.onEngine otherEngine).exchange twoSearches).map Exchange.answer ∧
      tellingService.items twoSearches.searches =
        (tellingService.onEngine otherEngine).items twoSearches.searches ∧
      tellingService.items twoSearches.searches =
        [.ok (Failure.executionPermanent "").json, .ok (Failure.resultShapeMismatch "").json] := by
  have halike : ∀ search ∈ twoSearches.searches,
      tellingService.engine.AlikeOn tellingService.settings search.1 search.2 otherEngine := by
    intro search hsearch
    rw [searches_twoSearches] at hsearch
    rcases List.mem_pair.mp hsearch with rfl | rfl
    · exact alikeOn_otherEngine (Attempt.prepare_eq_ok.mp rfl) rfl
    · exact alikeOn_otherEngine (Attempt.prepare_eq_ok.mp rfl) rfl
  refine ⟨?_, halike, (exchange_confidential tellingService otherEngine twoSearches halike).1,
    (exchange_confidential tellingService otherEngine twoSearches halike).2, ?_⟩
  · intro hsame
    have hreply := congrFun (congrFun hsame 0) ⟨"", "", .constant true, [], [], .empty⟩
    simp [tellingService, otherEngine] at hreply
  · rw [searches_twoSearches]
    rfl

end Service

end KustoSearch.Http
