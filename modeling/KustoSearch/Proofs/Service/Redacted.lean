import KustoSearch.Proofs.Service.Attempt
import KustoSearch.Proofs.Service.Concurrent

/-! # What a caller can tell apart

The details of a refused statement and of tables that do not fit are for the service alone. Two
engines are alike on a search where a caller has no business telling them apart: they take the same
time, and their replies are the same up to such details (`Engine.AlikeOn`). Two runs of the service,
one on each engine, are compared step by step. What looks alike (`Attempt.LooksLike`,
`Session.LooksLike`, `Gathering.LooksLike`) is what a caller could learn of the state: all of the
schedule, and the outcomes without the details. Main results: searches on such engines stay in
lockstep (`Gathering.looksLike_run`), and a search on its own comes to the same
(`Scheme.redacted_outcome_run`).
-/

namespace KustoSearch

/-! ## Failures without their details -/

/-- A failure without the details that are for the service alone. -/
def Failure.redacted : Failure → Failure
  | .executionPermanent _ => .executionPermanent ""
  | .resultShapeMismatch _ => .resultShapeMismatch ""
  | failure => failure

namespace Failure

@[simp] theorem status_redacted (failure : Failure) : failure.redacted.status = failure.status := by
  cases failure <;> rfl

@[simp] theorem publicReason_redacted (failure : Failure) :
    failure.redacted.publicReason = failure.publicReason := by
  cases failure <;> rfl

@[simp] theorem typeName_redacted (failure : Failure) :
    failure.redacted.typeName = failure.typeName := by
  cases failure <;> rfl

@[simp] theorem isTransient_redacted (failure : Failure) :
    failure.redacted.isTransient = failure.isTransient := by
  cases failure <;> rfl

/-- A caller is told nothing that is redacted. -/
@[simp] theorem json_redacted (failure : Failure) : failure.redacted.json = failure.json := by
  simp [json]

end Failure

/-- What a search comes to without the details that are for the service alone. -/
def redacted : Except Stop Response → Except Stop Response
  | .error (.failure f) => .error (.failure f.redacted)
  | outcome => outcome

/-! ## Engines that a caller cannot tell apart -/

/-- Whether the mapper finds that tables do not fit a statement. -/
def Plan.Misfits (plan : Plan) (layout : Layout) (result : Result) : Prop :=
  ∃ took ids detail,
    plan.response layout result took ids = .error (.failure (.resultShapeMismatch detail))

/-- Whether what comes of a statement on two engines is the same up to details: the texts of
refusals, or tables that do not fit. -/
inductive SameBut (plan : Plan) (layout : Layout) :
    Except EngineError Result → Except EngineError Result → Prop
  | same (outcome : Except EngineError Result) : SameBut plan layout outcome outcome
  | refused (detail other : String) :
      SameBut plan layout (.error (.permanent detail)) (.error (.permanent other))
  | misfitting {result other : Result} (left : plan.Misfits layout result)
      (right : plan.Misfits layout other) : SameBut plan layout (.ok result) (.ok other)

/-- Whether two replies take the same time and are the same up to details. -/
structure Reply.Alike (plan : Plan) (layout : Layout) (reply other : Reply) : Prop where
  delay : reply.delay = other.delay
  outcome : SameBut plan layout reply.outcome other.outcome

/-- Whether two engines reply alike to the statement of a search, whenever it is sent. -/
def Engine.AlikeOn (settings : Settings) (index : String) (body : Json) (engine other : Engine) :
    Prop :=
  ∀ plan batch, Attempt.Prepared settings index body plan batch →
    ∀ n, Reply.Alike plan batch.layout (engine n batch) (other n batch)

/-- A scheme on another engine. -/
def Scheme.onEngine (scheme : Scheme) (engine : Engine) : Scheme := { scheme with engine := engine }

/-! ## Attempts -/

/-- Tables that have no response have none whenever they arrive and however hits are named. -/
theorem Mapper.response_eq_error_later {plan : Plan} {layout : Layout} {result : Result}
    {took : Nat} {ids : Nat → String} {stop : Stop}
    (h : plan.response layout result took ids = .error stop) (later : Nat)
    (names : Nat → String) : plan.response layout result later names = .error stop := by
  have hnamed := Mapper.response_eq_error names h
  rw [Mapper.response_eq] at hnamed ⊢
  -- the time is written into the response last, after everything that can fail
  rcases Outcome.bind_eq_error.mp hnamed with hhits | ⟨hits, hhits, hrest⟩
  · exact Outcome.bind_eq_error.mpr (Or.inl hhits)
  · refine Outcome.bind_eq_error.mpr (Or.inr ⟨hits, hhits, ?_⟩)
    rcases Outcome.bind_eq_error.mp hrest with htotal | ⟨total, htotal, hrest⟩
    · exact Outcome.bind_eq_error.mpr (Or.inl htotal)
    · refine Outcome.bind_eq_error.mpr (Or.inr ⟨total, htotal, ?_⟩)
      rcases Outcome.bind_eq_error.mp hrest with haggregations | ⟨_, _, hdone⟩
      · exact Outcome.bind_eq_error.mpr (Or.inl haggregations)
      · cases hdone

/-- Tables that do not fit are found out in every attempt. -/
theorem Plan.Misfits.response {plan : Plan} {layout : Layout} {result : Result}
    (h : plan.Misfits layout result) (took : Nat) (ids : Nat → String) :
    ∃ detail, plan.response layout result took ids =
      .error (.failure (.resultShapeMismatch detail)) := by
  obtain ⟨_, _, detail, hresponse⟩ := h
  exact ⟨detail, Mapper.response_eq_error_later hresponse took ids⟩

namespace Attempt

/-- Whether two attempts are the same to a caller: they send the same, take the same time and come
to the same up to details. -/
structure LooksLike (attempt other : Attempt) : Prop where
  sent : attempt.sent = other.sent
  duration : attempt.duration = other.duration
  outcome : redacted attempt.outcome = redacted other.outcome

theorem LooksLike.refl (attempt : Attempt) : attempt.LooksLike attempt := ⟨rfl, rfl, rfl⟩

/-- Whether an attempt is made again shows in what it comes to without the details. -/
theorem isTransient_eq_redacted (attempt : Attempt) :
    attempt.isTransient = match redacted attempt.outcome with
      | .error (.failure f) => f.isTransient
      | _ => false := by
  unfold isTransient
  rcases attempt.outcome with (failure | fault) | response
  · exact (Failure.isTransient_redacted failure).symm
  · rfl
  · rfl

theorem LooksLike.isTransient_eq {attempt other : Attempt} (h : attempt.LooksLike other) :
    attempt.isTransient = other.isTransient := by
  rw [isTransient_eq_redacted, isTransient_eq_redacted, h.outcome]

section

variable {plan : Plan} {batch : Batch} {settings : Settings}

theorem redacted_conclude {outcome other : Except EngineError Result}
    (h : SameBut plan batch.layout outcome other) (duration : Nat) (gone : Bool)
    (ids : Nat → String) :
    redacted (conclude plan batch duration gone ids outcome).2 =
      redacted (conclude plan batch duration gone ids other).2 := by
  cases h with
  | same => rfl
  | refused => rfl
  | misfitting left right =>
    obtain ⟨detail, hleft⟩ := left.response duration ids
    obtain ⟨detail', hright⟩ := right.response duration ids
    cases gone with
    | true => rfl
    | false => simp only [conclude, hleft, hright]; rfl

/-- Waiting for alike replies takes the same time, and a reply that is late is not looked at. -/
theorem await_alike {reply other : Reply} (h : Reply.Alike plan batch.layout reply other)
    (timeout : Nat) :
    (await timeout reply).1 = (await timeout other).1 ∧
      SameBut plan batch.layout (await timeout reply).2 (await timeout other).2 := by
  unfold await
  rw [← h.delay]
  cases reply.delay with
  | none => exact ⟨rfl, .same _⟩
  | some delay =>
    by_cases hintime : delay ≤ timeout
    · dsimp only
      rw [if_pos hintime, if_pos hintime]
      exact ⟨rfl, h.outcome⟩
    · dsimp only
      rw [if_neg hintime, if_neg hintime]
      exact ⟨rfl, .same _⟩

theorem dispatch_looksLike {reply other : Reply} (h : Reply.Alike plan batch.layout reply other)
    (leave : Option Nat) (ids : Nat → String) :
    (dispatch settings leave plan batch reply ids).LooksLike
      (dispatch settings leave plan batch other ids) := by
  obtain ⟨htime, houtcome⟩ := await_alike h settings.timeout
  unfold dispatch
  dsimp only
  rw [htime]
  split
  · -- the caller has gone before the reply
    exact .refl _
  · constructor
    · rfl
    · rfl
    · exact redacted_conclude houtcome _ _ ids

/-- An attempt looks the same on two engines that reply alike to its statement. -/
theorem run_looksLike {leave : Option Nat} {index : String} {body : Json}
    {reply other : Batch → Reply}
    (h : ∀ plan batch, Prepared settings index body plan batch →
      Reply.Alike plan batch.layout (reply batch) (other batch))
    (ids : Nat → String) :
    (run settings leave index body reply ids).LooksLike
      (run settings leave index body other ids) := by
  by_cases hgone : leave = some 0
  · subst hgone
    exact .refl _
  · rcases prepared_or_unprepared settings index body with ⟨plan, batch, hprepared⟩ | hrefused
    · rw [run_prepared hgone hprepared, run_prepared hgone hprepared]
      exact dispatch_looksLike (h plan batch hprepared) leave ids
    · -- no statement is sent, so no engine has a say
      obtain ⟨failure, component, hunprepared⟩ := hrefused
      rw [run_unprepared hgone hunprepared, run_unprepared hgone hunprepared]
      exact .refl _

end

end Attempt

/-! ## Retries -/

theorem RetryPolicy.redacted_outcome_runFrom (policy : RetryPolicy) {attempt other : Nat → Attempt}
    (h : ∀ n, (attempt n).LooksLike (other n)) (left failed : Nat) :
    redacted (policy.runFrom attempt left failed).outcome =
      redacted (policy.runFrom other left failed).outcome := by
  induction left generalizing failed with
  | zero => exact (h failed).outcome
  | succ left ih =>
    rw [runFrom, runFrom]
    rw [(h failed).isTransient_eq]
    by_cases hagain : (other failed).isTransient = true
    · rw [if_pos hagain, if_pos hagain]
      exact ih (failed + 1)
    · rw [if_neg hagain, if_neg hagain]
      exact (h failed).outcome

namespace Scheme

variable {scheme : Scheme} {engine : Engine} {index : String} {body : Json}

theorem attempt_looksLike (h : scheme.engine.AlikeOn scheme.settings index body engine)
    (calls : Nat) :
    (scheme.attempt index body calls).LooksLike
      ((scheme.onEngine engine).attempt index body calls) :=
  Attempt.run_looksLike (fun plan batch hprepared => h plan batch hprepared calls) _

/-- A search on its own comes to the same on alike engines, up to details. -/
theorem redacted_outcome_run (h : scheme.engine.AlikeOn scheme.settings index body engine) :
    redacted (scheme.run index body).outcome =
      redacted ((scheme.onEngine engine).run index body).outcome :=
  scheme.retry.redacted_outcome_runFrom (fun n => attempt_looksLike h n) _ _

end Scheme

/-! ## Searches among others -/

namespace Session

/-- Whether sessions on two engines are of one search, on which the engines are alike, and have come
as far as each other at the same time. -/
inductive LooksLike (settings : Settings) (engine other : Engine) : Session → Session → Prop
  | ready {index : String} {body : Json} (wake failed : Nat)
      (alike : engine.AlikeOn settings index body other) :
      LooksLike settings engine other ⟨index, body, wake, .ready failed⟩
        ⟨index, body, wake, .ready failed⟩
  | waiting {index : String} {body : Json} (wake failed : Nat) {attempt twin : Attempt}
      (alike : engine.AlikeOn settings index body other) (look : attempt.LooksLike twin) :
      LooksLike settings engine other ⟨index, body, wake, .waiting failed attempt⟩
        ⟨index, body, wake, .waiting failed twin⟩
  | finished {index : String} {body : Json} (wake : Nat) {outcome twin : Except Stop Response}
      (alike : engine.AlikeOn settings index body other)
      (look : redacted outcome = redacted twin) :
      LooksLike settings engine other ⟨index, body, wake, .finished outcome⟩
        ⟨index, body, wake, .finished twin⟩

section

variable {settings : Settings} {engine other : Engine} {session twin : Session}

theorem LooksLike.wake_eq (h : session.LooksLike settings engine other twin) :
    session.wake = twin.wake := by
  cases h <;> rfl

theorem LooksLike.isFinished_eq (h : session.LooksLike settings engine other twin) :
    session.isFinished = twin.isFinished := by
  cases h <;> rfl

theorem LooksLike.outcome?_eq (h : session.LooksLike settings engine other twin) :
    session.outcome?.map redacted = twin.outcome?.map redacted := by
  cases h with
  | ready => rfl
  | waiting => rfl
  | finished _ _ look => exact congrArg some look

end

variable {scheme : Scheme} {engine : Engine} {session twin : Session}

/-- A step keeps sessions in lockstep, and sends the same on both engines. -/
theorem LooksLike.step (h : session.LooksLike scheme.settings scheme.engine engine twin)
    (calls : Nat) :
    (Gathering.stepSession scheme calls session).1.LooksLike scheme.settings scheme.engine engine
        (Gathering.stepSession (scheme.onEngine engine) calls twin).1 ∧
      (Gathering.stepSession scheme calls session).2.sent =
        (Gathering.stepSession (scheme.onEngine engine) calls twin).2.sent := by
  cases h with
  | @ready index body wake failed alike =>
    have hattempt := Scheme.attempt_looksLike alike calls
    constructor
    · show LooksLike _ _ _ ⟨index, body, wake + (scheme.attempt index body calls).duration, _⟩ _
      rw [hattempt.duration]
      exact .waiting _ failed alike hattempt
    · exact congrArg Option.toList hattempt.sent
  | @waiting index body wake failed attempt twin alike look =>
    have hretry : (scheme.onEngine engine).retry = scheme.retry := rfl
    -- whether the search is tried again shows, so both sessions go the same way
    by_cases hagain : (twin.isTransient && failed < scheme.retry.maxRetries) = true
    · simp only [Gathering.stepSession, look.isTransient_eq, hretry, if_pos hagain]
      exact ⟨.ready _ (failed + 1) alike, rfl⟩
    · simp only [Gathering.stepSession, look.isTransient_eq, hretry, if_neg hagain]
      exact ⟨.finished wake alike look.outcome, rfl⟩
  | finished wake alike look => exact ⟨.finished wake alike look, rfl⟩

end Session

/-! ## Searches together -/

namespace Gathering

/-- Whether searches on two engines are in lockstep: as many statements have been sent, and every
search has come as far as its twin. -/
structure LooksLike (settings : Settings) (engine other : Engine) (gathering twin : Gathering) :
    Prop where
  calls : gathering.calls = twin.calls
  sessions : List.Forall₂ (Session.LooksLike settings engine other) gathering.sessions twin.sessions

variable {scheme : Scheme} {engine : Engine} {gathering twin : Gathering}

/-- Whose turn it is depends on what shows. -/
theorem next?_eq {sessions twins : List Session}
    (h : List.Forall₂ (Session.LooksLike scheme.settings scheme.engine engine) sessions twins) :
    next? sessions = next? twins := by
  induction h with
  | nil => rfl
  | cons hfirst _ ih => rw [next?, next?, hfirst.isFinished_eq, hfirst.wake_eq, ih]

theorem forall₂_set {sessions twins : List Session} {place : Nat} {next next' : Session}
    (h : List.Forall₂ (Session.LooksLike scheme.settings scheme.engine engine) sessions twins)
    (hnext : next.LooksLike scheme.settings scheme.engine engine next') :
    List.Forall₂ (Session.LooksLike scheme.settings scheme.engine engine)
      (sessions.set place next) (twins.set place next') := by
  induction h generalizing place with
  | nil => exact .nil
  | cons hfirst hrest ih =>
    cases place with
    | zero => exact .cons hnext hrest
    | succ place => exact .cons hfirst ih

theorem LooksLike.stepAt (h : gathering.LooksLike scheme.settings scheme.engine engine twin)
    (place : Nat) :
    (gathering.stepAt scheme place).LooksLike scheme.settings scheme.engine engine
      (twin.stepAt (scheme.onEngine engine) place) := by
  obtain ⟨hcalls, hsessions⟩ := h
  unfold Gathering.stepAt
  by_cases hplace : place < gathering.sessions.length
  · have hplace' : place < twin.sessions.length := hsessions.length_eq ▸ hplace
    have hsession := hsessions.get hplace hplace'
    obtain ⟨hstep, hsent⟩ := hsession.step gathering.calls
    rw [List.getElem?_eq_getElem hplace, List.getElem?_eq_getElem hplace']
    constructor
    · show gathering.calls + _ = twin.calls + _
      rw [← hcalls]
      exact congrArg (fun sent : List Batch => gathering.calls + sent.length) hsent
    · show List.Forall₂ _ (gathering.sessions.set place _) (twin.sessions.set place _)
      rw [← hcalls]
      exact forall₂_set hsessions hstep
  · have hplace' : ¬place < twin.sessions.length := hsessions.length_eq ▸ hplace
    rw [List.getElem?_eq_none (not_lt.mp hplace), List.getElem?_eq_none (not_lt.mp hplace')]
    exact ⟨hcalls, hsessions⟩

/-- However many steps are made, searches on alike engines stay in lockstep. -/
theorem LooksLike.runFor (fuel : Nat)
    (h : gathering.LooksLike scheme.settings scheme.engine engine twin) :
    (Gathering.runFor scheme fuel gathering).LooksLike scheme.settings scheme.engine engine
      (Gathering.runFor (scheme.onEngine engine) fuel twin) := by
  induction fuel generalizing gathering twin with
  | zero => exact h
  | succ fuel ih =>
    rw [Gathering.runFor, Gathering.runFor, ← next?_eq h.sessions]
    cases next? gathering.sessions with
    | none => exact h
    | some step => exact ih (h.stepAt step.1)

/-- Searches that run together on alike engines are in lockstep at the end. -/
theorem looksLike_run {searches : List (String × Json)}
    (h : ∀ search ∈ searches,
      scheme.engine.AlikeOn scheme.settings search.1 search.2 engine) :
    (run scheme searches).LooksLike scheme.settings scheme.engine engine
      (run (scheme.onEngine engine) searches) := by
  refine LooksLike.runFor _ ⟨rfl, ?_⟩
  show List.Forall₂ _ (searches.map _) (searches.map _)
  rw [List.forall₂_map_left_iff, List.forall₂_map_right_iff]
  exact List.forall₂_same.mpr fun search hsearch => .ready 0 0 (h search hsearch)

/-- Searches in lockstep come to the same up to details. -/
theorem LooksLike.outcomes_eq (h : gathering.LooksLike scheme.settings scheme.engine engine twin) :
    gathering.outcomes.map redacted = twin.outcomes.map redacted := by
  have hshown : gathering.sessions.map (fun session => session.outcome?.map redacted) =
      twin.sessions.map (fun session => session.outcome?.map redacted) := by
    rw [← List.forall₂_eq_eq_eq, List.forall₂_map_left_iff, List.forall₂_map_right_iff]
    exact h.sessions.imp fun _ _ hsession => hsession.outcome?_eq
  have houtcomes (sessions : List Session) :
      (sessions.filterMap Session.outcome?).map redacted =
        (sessions.map fun session => session.outcome?.map redacted).filterMap id := by
    rw [List.map_filterMap, List.filterMap_map]
    rfl
  rw [outcomes, outcomes, houtcomes, houtcomes, hshown]

theorem LooksLike.duration_eq (h : gathering.LooksLike scheme.settings scheme.engine engine twin) :
    gathering.duration = twin.duration := by
  have hwakes : gathering.sessions.map Session.wake = twin.sessions.map Session.wake := by
    rw [← List.forall₂_eq_eq_eq, List.forall₂_map_left_iff, List.forall₂_map_right_iff]
    exact h.sessions.imp fun _ _ hsession => hsession.wake_eq
  rw [Gathering.duration_eq, Gathering.duration_eq, hwakes]

end Gathering

end KustoSearch
