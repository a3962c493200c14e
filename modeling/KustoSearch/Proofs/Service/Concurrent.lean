import KustoSearch.Proofs.Response.Parts
import KustoSearch.Service.Concurrent

/-! # Concurrent searches are as if alone

Searches that run together share an engine and the numbers of statements. Where the engine replies
to each statement alike, whenever it is asked, every search keeps to the course that it would take
on its own (`Session.OnCourse`): a step of one search leaves the others where they are, and every
step brings the end nearer. Main result: all searches come to an end, each with the outcome of a
run of its own and at the time of that run (`Gathering.alone_run`). The names of the hits are those
of one of the statements, and which one depends on the others.
-/

namespace KustoSearch

/-! ## Names of hits -/

namespace Attempt

section

variable {plan : Plan} {batch : Batch} {duration : Nat} {gone : Bool} {ids : Nat → String}
  (names : Nat → String)

theorem conclude_eq_error {outcome : Except EngineError Result} {stop : Stop}
    (h : (conclude plan batch duration gone ids outcome).2 = .error stop) :
    (conclude plan batch duration gone names outcome).2 = .error stop := by
  cases outcome with
  | error e => exact h
  | ok result =>
    unfold conclude at h ⊢
    dsimp only at h ⊢
    split_ifs at h ⊢
    · exact h
    · rcases hmapped : plan.response batch.layout result duration ids with
        (failure | fault) | response
      · rw [hmapped] at h
        rw [Mapper.response_eq_error names hmapped]
        exact h
      · rw [hmapped] at h
        rw [Mapper.response_eq_error names hmapped]
        exact h
      · rw [hmapped] at h
        cases h

variable {settings : Settings} {leave : Option Nat} {index : String} {body : Json}
  {reply : Batch → Reply}

/-- How long an attempt takes does not depend on how hits are named. -/
theorem duration_run (ids : Nat → String) :
    (run settings leave index body reply names).duration =
      (run settings leave index body reply ids).duration := by
  unfold run
  split_ifs
  · rfl
  · split
    · rfl
    · unfold dispatch
      dsimp only
      split <;> rfl

/-- An attempt that has no response has none however hits are named. -/
theorem outcome_run_eq_error {stop : Stop}
    (h : (run settings leave index body reply ids).outcome = .error stop) :
    (run settings leave index body reply names).outcome = .error stop := by
  unfold run at h ⊢
  split_ifs at h ⊢
  · exact h
  · split at h
    · exact h
    · rename_i plan batch _
      unfold dispatch at h ⊢
      dsimp only at h ⊢
      split at h
      · exact h
      · exact conclude_eq_error names h

theorem isTransient_run (ids : Nat → String) :
    (run settings leave index body reply names).isTransient =
      (run settings leave index body reply ids).isTransient := by
  unfold isTransient
  cases h : (run settings leave index body reply ids).outcome with
  | error stop => rw [outcome_run_eq_error names h]
  | ok response =>
    cases hnames : (run settings leave index body reply names).outcome with
    | error stop => cases h.symm.trans (outcome_run_eq_error ids hnames)
    | ok other => rfl

end

end Attempt

/-! ## Searches alone -/

/-- Whether an engine replies to equal statements alike, whenever they are sent. -/
def Engine.RepliesAlike (engine : Engine) : Prop := ∀ n batch, engine n batch = engine 0 batch

namespace RetryPolicy

variable (policy : RetryPolicy) (attempt : Attempt)

theorem outcome_runFrom (left failed : Nat) :
    (policy.runFrom (fun _ => attempt) left failed).outcome = attempt.outcome := by
  induction left generalizing failed with
  | zero => rfl
  | succ left ih =>
    rw [runFrom]
    split_ifs
    · exact ih (failed + 1)
    · rfl

end RetryPolicy

namespace Scheme

variable {scheme : Scheme}

/-- The scheme in which all hits are named as those of one statement. -/
def named (scheme : Scheme) (call : Nat) : Scheme := { scheme with ids := fun _ => scheme.ids call }

/-- The run of a search on its own, whose hits are named as those of one statement. -/
def alone (scheme : Scheme) (index : String) (body : Json) (call : Nat) : Run :=
  (scheme.named call).run index body

/-- How long a search takes on its own. -/
def timeAlone (scheme : Scheme) (index : String) (body : Json) : Nat :=
  (scheme.alone index body 0).duration

/-- How long a search still takes on its own after some attempts have failed. -/
def timeLeft (scheme : Scheme) (index : String) (body : Json) (failed : Nat) : Nat :=
  (scheme.retry.runFrom (fun _ => scheme.attempt index body 0) (scheme.retry.maxRetries - failed)
    failed).duration

variable (hengine : scheme.engine.RepliesAlike) (index : String) (body : Json)

include hengine

theorem attempt_named (call n : Nat) :
    (scheme.named call).attempt index body n = scheme.attempt index body call := by
  have hreply : scheme.engine n = scheme.engine call := by
    funext batch
    rw [hengine n, hengine call]
  unfold attempt named
  dsimp only
  rw [hreply]

theorem alone_eq (call : Nat) :
    scheme.alone index body call =
      scheme.retry.runFrom (fun _ => scheme.attempt index body call) scheme.retry.maxRetries 0 := by
  have hattempt : (scheme.named call).attempt index body =
      fun _ => scheme.attempt index body call := funext (attempt_named hengine index body call)
  rw [alone, Scheme.run, RetryPolicy.run, hattempt]
  rfl

theorem outcome_alone (call : Nat) :
    (scheme.alone index body call).outcome = (scheme.attempt index body call).outcome := by
  rw [alone_eq hengine, RetryPolicy.outcome_runFrom]

/-- The attempts of a search on the same statement differ in the names of hits only. -/
theorem attempt_eq (call other : Nat) :
    scheme.attempt index body call = Attempt.run scheme.settings none index body
      (scheme.engine other) (scheme.ids call) := by
  have hreply : scheme.engine call = scheme.engine other := by
    funext batch
    rw [hengine call, hengine other]
  rw [attempt, hreply]

theorem duration_attempt (call : Nat) :
    (scheme.attempt index body call).duration = (scheme.attempt index body 0).duration := by
  rw [attempt_eq hengine index body call 0, attempt, Attempt.duration_run]

theorem isTransient_attempt (call : Nat) :
    (scheme.attempt index body call).isTransient = (scheme.attempt index body 0).isTransient := by
  rw [attempt_eq hengine index body call 0, attempt, Attempt.isTransient_run]

theorem timeLeft_zero : scheme.timeLeft index body 0 = scheme.timeAlone index body := by
  rw [timeLeft, timeAlone, alone_eq hengine, Nat.sub_zero]

/-- A search that fails one way fails so however its hits are named. -/
theorem outcome_alone_eq_error {call : Nat} {stop : Stop}
    (h : (scheme.alone index body call).outcome = .error stop) (other : Nat) :
    (scheme.alone index body other).outcome = .error stop := by
  rw [outcome_alone hengine] at h ⊢
  rw [attempt_eq hengine index body call 0] at h
  rw [attempt_eq hengine index body other 0]
  exact Attempt.outcome_run_eq_error _ h

theorem timeLeft_of_retry {call failed : Nat}
    (htransient : (scheme.attempt index body call).isTransient = true)
    (hfew : failed < scheme.retry.maxRetries) :
    scheme.timeLeft index body failed = (scheme.attempt index body call).duration +
      scheme.retry.pause (failed + 1) + scheme.timeLeft index body (failed + 1) := by
  obtain ⟨left, hleft⟩ : ∃ left, scheme.retry.maxRetries - failed = left + 1 :=
    ⟨scheme.retry.maxRetries - failed - 1, by omega⟩
  have hnext : scheme.retry.maxRetries - (failed + 1) = left := by omega
  rw [isTransient_attempt hengine] at htransient
  rw [timeLeft, timeLeft, hleft, hnext, RetryPolicy.runFrom, if_pos htransient,
    duration_attempt hengine]
  rfl

theorem timeLeft_of_last {call failed : Nat}
    (hlast : ((scheme.attempt index body call).isTransient && failed < scheme.retry.maxRetries) =
      false) :
    scheme.timeLeft index body failed = (scheme.attempt index body call).duration := by
  rw [isTransient_attempt hengine] at hlast
  rw [timeLeft, duration_attempt hengine]
  cases hleft : scheme.retry.maxRetries - failed with
  | zero => rfl
  | succ left =>
    have hfew : failed < scheme.retry.maxRetries := by omega
    have htransient : (scheme.attempt index body 0).isTransient = false := by
      simpa [hfew] using hlast
    rw [RetryPolicy.runFrom, if_neg (by simp [htransient])]
    rfl

end Scheme

/-! ## Steps of a search -/

namespace Session

/-- Whether a search has got as far as it would have on its own at this time. -/
inductive OnCourse (scheme : Scheme) (index : String) (body : Json) : Session → Prop
  | ready {wake failed : Nat}
      (time : wake + scheme.timeLeft index body failed = scheme.timeAlone index body) :
      OnCourse scheme index body ⟨index, body, wake, .ready failed⟩
  | waiting {wake failed : Nat} (call : Nat)
      (retry : ((scheme.attempt index body call).isTransient &&
        failed < scheme.retry.maxRetries) = true)
      (time : wake + (scheme.retry.pause (failed + 1) + scheme.timeLeft index body (failed + 1)) =
        scheme.timeAlone index body) :
      OnCourse scheme index body
        ⟨index, body, wake, .waiting failed (scheme.attempt index body call)⟩
  | ending {wake failed : Nat} (call : Nat)
      (last : ((scheme.attempt index body call).isTransient &&
        failed < scheme.retry.maxRetries) = false)
      (time : wake = scheme.timeAlone index body) :
      OnCourse scheme index body
        ⟨index, body, wake, .waiting failed (scheme.attempt index body call)⟩
  | finished {wake : Nat} (call : Nat) (time : wake = scheme.timeAlone index body) :
      OnCourse scheme index body
        ⟨index, body, wake, .finished (scheme.alone index body call).outcome⟩

variable {scheme : Scheme} {index : String} {body : Json} {session : Session}

theorem onCourse_start (hengine : scheme.engine.RepliesAlike) (index : String) (body : Json) :
    (start index body).OnCourse scheme index body :=
  .ready (by rw [Scheme.timeLeft_zero hengine, Nat.zero_add])

/-- A step keeps a search on its course, whatever the number of its statement is. -/
theorem OnCourse.step (hengine : scheme.engine.RepliesAlike)
    (h : session.OnCourse scheme index body) (calls : Nat) :
    (Gathering.stepSession scheme calls session).1.OnCourse scheme index body := by
  cases h with
  | @ready wake failed time =>
    show OnCourse scheme index body ⟨index, body,
      wake + (scheme.attempt index body calls).duration,
      .waiting failed (scheme.attempt index body calls)⟩
    cases hretry : (scheme.attempt index body calls).isTransient &&
      failed < scheme.retry.maxRetries with
    | true =>
      refine .waiting calls hretry ?_
      obtain ⟨htransient, hfew⟩ : (scheme.attempt index body calls).isTransient = true ∧
          failed < scheme.retry.maxRetries := by simpa using hretry
      rw [Scheme.timeLeft_of_retry hengine index body htransient hfew] at time
      omega
    | false =>
      refine .ending calls hretry ?_
      rw [Scheme.timeLeft_of_last hengine index body hretry] at time
      exact time
  | @waiting wake failed call retry time =>
    simp only [Gathering.stepSession, retry, if_true]
    exact .ready (by omega)
  | @ending wake failed call last time =>
    simp only [Gathering.stepSession, last, Bool.false_eq_true, if_false]
    rw [← Scheme.outcome_alone hengine]
    exact .finished call time
  | finished call time => exact .finished call time

/-- A step of a search that is not finished brings its end nearer. -/
theorem stepsLeft_step (h : session.isFinished = false) (calls : Nat) :
    (Gathering.stepSession scheme calls session).1.stepsLeft scheme.retry.maxRetries <
      session.stepsLeft scheme.retry.maxRetries := by
  obtain ⟨index, body, wake, progress⟩ := session
  cases progress with
  | ready failed =>
    simp only [Gathering.stepSession, stepsLeft]
    omega
  | waiting failed attempt =>
    simp only [Gathering.stepSession]
    split_ifs with hretry
    · have hfew : failed < scheme.retry.maxRetries := by
        simp only [Bool.and_eq_true, decide_eq_true_eq] at hretry
        exact hretry.2
      simp only [stepsLeft]
      omega
    · simp only [stepsLeft]
      omega
  | finished outcome => cases h

/-- A search that has come to its end on its course. -/
theorem OnCourse.of_isFinished (h : session.OnCourse scheme index body)
    (hfinished : session.isFinished = true) :
    session.wake = scheme.timeAlone index body ∧
      ∃ call, session.outcome? = some (scheme.alone index body call).outcome := by
  cases h with
  | finished call time => exact ⟨time, call, rfl⟩
  | _ => cases hfinished

end Session

/-! ## Steps of all searches -/

namespace Gathering

variable {scheme : Scheme}

/-- The next step is that of a search that is not finished. -/
theorem exists_of_next? {sessions : List Session} {place wake : Nat}
    (h : next? sessions = some (place, wake)) :
    ∃ session, sessions[place]? = some session ∧ session.isFinished = false := by
  induction sessions generalizing place wake with
  | nil => cases h
  | cons session sessions ih =>
    have hlater : ∀ {step : Nat × Nat},
        (next? sessions).map (fun step => (step.1 + 1, step.2)) = some step →
        ∃ s, (session :: sessions)[step.1]? = some s ∧ s.isFinished = false := by
      intro step hmap
      obtain ⟨⟨before, time⟩, hnext, rfl⟩ := Option.map_eq_some_iff.mp hmap
      exact ih hnext
    rw [next?] at h
    dsimp only at h
    split_ifs at h with hfinished
    · exact hlater h
    · have hown : session.isFinished = false := by simpa using hfinished
      split at h
      · rename_i before time hmap
        split_ifs at h
        · cases h
          exact hlater hmap
        · cases h
          exact ⟨session, rfl, hown⟩
      · cases h
        exact ⟨session, rfl, hown⟩

/-- There is no next step once all searches are finished. -/
theorem isFinished_of_next? {sessions : List Session} (h : next? sessions = none) :
    ∀ session ∈ sessions, session.isFinished = true := by
  induction sessions with
  | nil => simp
  | cons first sessions ih =>
    rw [next?] at h
    dsimp only at h
    split_ifs at h with hfinished
    · intro session hsession
      rcases List.mem_cons.mp hsession with rfl | hsession
      · exact hfinished
      · exact ih (Option.map_eq_none_iff.mp h) session hsession
    · split at h
      · split_ifs at h
      · cases h

/-- Whether all searches are on their courses, in order. -/
def OnCourse (scheme : Scheme) (searches : List (String × Json)) (sessions : List Session) : Prop :=
  List.Forall₂ (fun search session => session.OnCourse scheme search.1 search.2) searches sessions

theorem OnCourse.set {searches : List (String × Json)} {sessions : List Session}
    (h : OnCourse scheme searches sessions) {place : Nat} {session next : Session}
    (hplace : sessions[place]? = some session)
    (hnext : ∀ index body, session.OnCourse scheme index body → next.OnCourse scheme index body) :
    OnCourse scheme searches (sessions.set place next) := by
  induction h generalizing place with
  | nil => cases hplace
  | cons hfirst hrest ih =>
    cases place with
    | zero =>
      cases hplace
      exact .cons (hnext _ _ hfirst) hrest
    | succ place => exact .cons hfirst (ih hplace)

/-- A bound on the steps that are still made. -/
def stepsLeft (maxRetries : Nat) (sessions : List Session) : Nat :=
  (sessions.map fun session => session.stepsLeft maxRetries).sum

theorem stepsLeft_set {maxRetries place : Nat} {sessions : List Session} {session next : Session}
    (hplace : sessions[place]? = some session)
    (hless : next.stepsLeft maxRetries < session.stepsLeft maxRetries) :
    stepsLeft maxRetries (sessions.set place next) < stepsLeft maxRetries sessions := by
  unfold stepsLeft
  induction sessions generalizing place with
  | nil => cases hplace
  | cons first sessions ih =>
    cases place with
    | zero =>
      cases hplace
      simp only [List.set_cons_zero, List.map_cons, List.sum_cons]
      omega
    | succ place =>
      have hrest := ih hplace
      simp only [List.set_cons_succ, List.map_cons, List.sum_cons]
      omega

/-- A step of the search whose turn it is keeps all searches on their courses and leaves less to
do. -/
theorem stepAt_onCourse (hengine : scheme.engine.RepliesAlike)
    {searches : List (String × Json)} {gathering : Gathering} {place wake : Nat}
    (h : OnCourse scheme searches gathering.sessions)
    (hnext : next? gathering.sessions = some (place, wake)) :
    OnCourse scheme searches (stepAt scheme gathering place).sessions ∧
      stepsLeft scheme.retry.maxRetries (stepAt scheme gathering place).sessions <
        stepsLeft scheme.retry.maxRetries gathering.sessions := by
  obtain ⟨session, hplace, hfinished⟩ := exists_of_next? hnext
  have hstep : (stepAt scheme gathering place).sessions =
      gathering.sessions.set place (stepSession scheme gathering.calls session).1 := by
    rw [stepAt, hplace]
  rw [hstep]
  exact ⟨h.set hplace fun _ _ hcourse => hcourse.step hengine gathering.calls,
    stepsLeft_set hplace (Session.stepsLeft_step hfinished gathering.calls)⟩

/-- With enough steps all searches come to their ends, and they stay on their courses. -/
theorem runFor_onCourse (hengine : scheme.engine.RepliesAlike)
    {searches : List (String × Json)} (fuel : Nat) {gathering : Gathering}
    (h : OnCourse scheme searches gathering.sessions)
    (hfuel : stepsLeft scheme.retry.maxRetries gathering.sessions ≤ fuel) :
    OnCourse scheme searches (runFor scheme fuel gathering).sessions ∧
      ∀ session ∈ (runFor scheme fuel gathering).sessions, session.isFinished = true := by
  induction fuel generalizing gathering with
  | zero =>
    refine ⟨h, isFinished_of_next? ?_⟩
    -- a search with a next step would have steps left
    cases hnext : next? gathering.sessions with
    | none => exact hnext
    | some step =>
      have hless := (stepAt_onCourse hengine h hnext).2
      omega
  | succ fuel ih =>
    rw [runFor]
    cases hnext : next? gathering.sessions with
    | none => exact ⟨h, isFinished_of_next? hnext⟩
    | some step =>
      obtain ⟨hcourse, hless⟩ := stepAt_onCourse hengine h hnext
      exact ih hcourse (by omega)

theorem foldr_stepsLeft (maxRetries : Nat) (sessions : List Session) :
    sessions.foldr (fun s n => s.stepsLeft maxRetries + n) 0 = stepsLeft maxRetries sessions := by
  induction sessions with
  | nil => rfl
  | cons session sessions ih =>
    rw [List.foldr_cons, ih]
    rfl

/-- Searches that run together end as they would alone. -/
theorem run_onCourse (hengine : scheme.engine.RepliesAlike) (searches : List (String × Json)) :
    OnCourse scheme searches (run scheme searches).sessions ∧
      ∀ session ∈ (run scheme searches).sessions, session.isFinished = true := by
  unfold run
  dsimp only
  refine runFor_onCourse hengine _ ?_ (foldr_stepsLeft _ _).ge
  unfold OnCourse
  dsimp only
  rw [List.forall₂_map_right_iff]
  exact List.forall₂_same.mpr fun search _ => Session.onCourse_start hengine search.1 search.2

theorem outcomes_of_onCourse {searches : List (String × Json)} {sessions : List Session}
    (h : OnCourse scheme searches sessions)
    (hfinished : ∀ session ∈ sessions, session.isFinished = true) :
    List.Forall₂ (fun search outcome =>
      ∃ call, outcome = (scheme.alone search.1 search.2 call).outcome) searches
      (sessions.filterMap Session.outcome?) := by
  induction h with
  | nil => exact .nil
  | cons hfirst _ ih =>
    obtain ⟨_, call, houtcome⟩ := hfirst.of_isFinished (hfinished _ List.mem_cons_self)
    rw [List.filterMap_cons_some houtcome]
    exact .cons ⟨call, rfl⟩ (ih fun s hs => hfinished s (List.mem_cons_of_mem _ hs))

theorem wakes_of_onCourse {searches : List (String × Json)} {sessions : List Session}
    (h : OnCourse scheme searches sessions)
    (hfinished : ∀ session ∈ sessions, session.isFinished = true) :
    sessions.map Session.wake = searches.map fun search => scheme.timeAlone search.1 search.2 := by
  induction h with
  | nil => rfl
  | cons hfirst _ ih =>
    rw [List.map_cons, List.map_cons, (hfirst.of_isFinished (hfinished _ List.mem_cons_self)).1,
      ih fun s hs => hfinished s (List.mem_cons_of_mem _ hs)]

theorem duration_eq (gathering : Gathering) :
    gathering.duration = (gathering.sessions.map Session.wake).foldl max 0 := by
  rw [duration, List.foldl_map]

/-- Searches that run together come to the outcomes that they have alone, each under the names of
one of the statements, and the last of them ends when the longest one does alone. -/
theorem alone_run (hengine : scheme.engine.RepliesAlike) {searches : List (String × Json)}
    (hsome : searches ≠ []) :
    List.Forall₂ (fun search outcome =>
      ∃ call, outcome = (scheme.alone search.1 search.2 call).outcome) searches
      (run scheme searches).outcomes ∧
    (searches.map fun search => scheme.timeAlone search.1 search.2).max? =
      some (run scheme searches).duration := by
  obtain ⟨hcourse, hfinished⟩ := run_onCourse hengine searches
  refine ⟨outcomes_of_onCourse hcourse hfinished, ?_⟩
  rw [duration_eq, wakes_of_onCourse hcourse hfinished]
  cases searches with
  | nil => exact absurd rfl hsome
  | cons search searches =>
    rw [List.map_cons, List.max?_cons', List.foldl_cons, Nat.zero_max]

end Gathering

end KustoSearch
