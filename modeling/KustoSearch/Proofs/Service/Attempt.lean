import KustoSearch.Proofs.Outcome
import KustoSearch.Service.Attempt
import Mathlib.Data.ENat.Lattice

/-! # What an attempt accounts for

A reply, the time limit and the caller's leaving race for the end of an attempt. Whatever comes
first, and wherever an attempt ends before anything is sent, each time, size and failure is
measured once where it is due and nowhere else: `Attempt.run_accounted`. A caller who leaves at
the very moment of the reply or of the limit is left aside, for then nothing says which of the two
came first.
-/

namespace KustoSearch

/-! ## Kinds of measurements -/

namespace Metric

/-- Whether a measurement is the time from a request to its statement. -/
def isPlanning : Metric → Bool
  | .planning _ => true
  | _ => false

/-- Whether a measurement is the time of a wait. -/
def isExecution : Metric → Bool
  | .execution _ => true
  | _ => false

/-- Whether a measurement is the size of a result. -/
def isPayload : Metric → Bool
  | .payload _ => true
  | _ => false

end Metric

namespace Attempt

/-! ## Times -/

/-- The time of something that may never happen. -/
def moment : Option Nat → ℕ∞
  | some time => time
  | none => ⊤

section

variable (settings : Settings) (leave : Option Nat) (reply : Batch → Reply)

/-- Whether the reply to a statement is there within the limit and before the caller leaves. -/
def InTime (batch : Batch) : Prop :=
  moment (reply batch).delay ≤ settings.timeout ∧ moment (reply batch).delay < moment leave

/-- Whether the caller leaves before the reply and before the limit. -/
def LeavesFirst (batch : Batch) : Prop :=
  moment leave < min (moment (reply batch).delay) settings.timeout

/-- Whether the limit passes before the reply and before the caller leaves. -/
def OverdueFirst (batch : Batch) : Prop :=
  (settings.timeout : ℕ∞) < moment (reply batch).delay ∧ (settings.timeout : ℕ∞) < moment leave

/-- Whether the wait for a reply ends at a time, be it that the caller leaves, that the reply is
there or that the limit passes. -/
def WaitEnds (batch : Batch) (time : Nat) : Prop :=
  (time : ℕ∞) = min (moment leave) (min (moment (reply batch).delay) settings.timeout)

end

/-! ## From requests to statements -/

section

variable (settings : Settings) (index : String) (body : Json)

/-- Whether a request has a plan and a statement. -/
def Prepared (plan : Plan) (batch : Batch) : Prop :=
  ∃ search, Search.read index body = .ok search ∧ search.plan = .ok plan ∧
    plan.batch settings.database = .ok batch

/-- Why a request has no statement, and who finds it. -/
inductive Unprepared : Failure → Component → Prop
  | unread {failure : Failure} (read : Search.read index body = .error failure) :
      Unprepared failure .parser
  | unplanned {search : Search} {failure : Failure} (read : Search.read index body = .ok search)
      (plan : search.plan = .error failure) : Unprepared failure .planner
  | unstated {search : Search} {plan : Plan} {failure : Failure}
      (read : Search.read index body = .ok search) (planned : search.plan = .ok plan)
      (batch : plan.batch settings.database = .error failure) : Unprepared failure .planner

end

section

variable {settings : Settings} {index : String} {body : Json}

theorem prepare_eq_ok {plan : Plan} {batch : Batch} :
    prepare settings index body = .ok (plan, batch) ↔ Prepared settings index body plan batch := by
  unfold prepare Prepared
  simp only [Outcome.bind_eq_ok, Outcome.mapError_eq_ok, Except.ok.injEq, Prod.mk.injEq]
  constructor
  · rintro ⟨search, hread, _, hplan, _, hbatch, rfl, rfl⟩
    exact ⟨search, hread, hplan, hbatch⟩
  · rintro ⟨search, hread, hplan, hbatch⟩
    exact ⟨search, hread, plan, hplan, batch, hbatch, rfl, rfl⟩

theorem prepare_eq_error {failure : Failure} {component : Component} :
    prepare settings index body = .error (failure, component) ↔
      Unprepared settings index body failure component := by
  unfold prepare
  simp only [Outcome.bind_eq_error, Outcome.mapError_eq_ok, Outcome.mapError_eq_error,
    Prod.mk.injEq]
  constructor
  · rintro (⟨_, hread, rfl, rfl⟩ | ⟨search, hread, ⟨_, hplan, rfl, rfl⟩ | ⟨plan, hplan, h⟩⟩)
    · exact .unread hread
    · exact .unplanned hread hplan
    · rcases h with ⟨_, hbatch, rfl, rfl⟩ | ⟨_, _, h⟩
      · exact .unstated hread hplan hbatch
      · cases h
  · intro h
    cases h with
    | unread read => exact Or.inl ⟨_, read, rfl, rfl⟩
    | unplanned read plan => exact Or.inr ⟨_, read, Or.inl ⟨_, plan, rfl, rfl⟩⟩
    | unstated read planned batch =>
      exact Or.inr ⟨_, read, Or.inr ⟨_, planned, Or.inl ⟨_, batch, rfl, rfl⟩⟩⟩

/-- A request has a statement, or a reason to have none. -/
theorem prepared_or_unprepared (settings : Settings) (index : String) (body : Json) :
    (∃ plan batch, Prepared settings index body plan batch) ∨
      ∃ failure component, Unprepared settings index body failure component := by
  cases h : prepare settings index body with
  | ok prepared => exact Or.inl ⟨_, _, prepare_eq_ok.mp h⟩
  | error refused => exact Or.inr ⟨_, _, prepare_eq_error.mp h⟩

theorem Prepared.unique {plan other : Plan} {batch next : Batch}
    (h : Prepared settings index body plan batch)
    (hother : Prepared settings index body other next) :
    plan = other ∧ batch = next := by
  have heq := (prepare_eq_ok.mpr h).symm.trans (prepare_eq_ok.mpr hother)
  cases heq
  exact ⟨rfl, rfl⟩

theorem Unprepared.not_prepared {failure : Failure} {component : Component} {plan : Plan}
    {batch : Batch} (h : Unprepared settings index body failure component) :
    ¬Prepared settings index body plan batch := by
  intro hprepared
  have heq := (prepare_eq_error.mpr h).symm.trans (prepare_eq_ok.mpr hprepared)
  cases heq

end

/-! ## Ends of an attempt -/

section

variable {settings : Settings} {leave : Option Nat} {index : String} {body : Json}
  {reply : Batch → Reply} {ids : Nat → String} {plan : Plan} {batch : Batch}

/-- Before any time has passed only a caller is gone who was so from the start. -/
theorem isGone_zero : isGone leave 0 = true ↔ leave = some 0 := by
  cases leave <;> simp [isGone]

/-- A caller who did not break off the wait has not gone when it ends. -/
theorem isGone_eq_false (hhere : leave ≠ some 0) {duration : Nat}
    (h : leave.filter (· < duration) = none) : isGone leave duration = false := by
  cases leave with
  | none => rfl
  | some left =>
    have hleft : left ≠ 0 := fun hzero => hhere (by rw [hzero])
    have hstays : ¬left < duration := by simpa [Option.filter] using h
    simp [isGone, hleft, hstays]

theorem run_gone : run settings (some 0) index body reply ids = early [] .cancelled .controller :=
  rfl

theorem run_unprepared {failure : Failure} {component : Component} (hhere : leave ≠ some 0)
    (h : Unprepared settings index body failure component) :
    run settings leave index body reply ids = early [.planning 0] failure component := by
  rw [run, if_neg fun hgone => hhere (isGone_zero.mp hgone), prepare_eq_error.mpr h]

/-- A caller who is there at the start is there once the statement is made. -/
theorem run_prepared (hhere : leave ≠ some 0) (h : Prepared settings index body plan batch) :
    run settings leave index body reply ids =
      dispatch settings leave plan batch (reply batch) ids := by
  have hstays : ¬isGone leave 0 = true := fun hgone => hhere (isGone_zero.mp hgone)
  rw [run, if_neg hstays, prepare_eq_ok.mpr h]
  exact if_neg hstays

theorem await_of_le {timeout delay : Nat} {reply : Reply} (hdelay : reply.delay = some delay)
    (h : delay ≤ timeout) : await timeout reply = (delay, reply.outcome) := by
  rw [await, hdelay]
  exact if_pos h

theorem await_of_lt {timeout : Nat} {reply : Reply} (h : (timeout : ℕ∞) < moment reply.delay) :
    await timeout reply = (timeout, .error (overdue timeout)) := by
  unfold await
  split
  · rename_i delay hdelay
    rw [hdelay] at h
    exact if_neg (Nat.not_le.mpr (ENat.natCast_lt_natCast.mp h))
  · rfl

/-- The wait that nobody breaks off ends with the reply or with the limit. -/
theorem coe_fst_await (timeout : Nat) (reply : Reply) :
    ((await timeout reply).1 : ℕ∞) = min (moment reply.delay) timeout := by
  rcases le_or_gt (moment reply.delay) timeout with h | h
  · cases hdelay : reply.delay with
    | none => simp [hdelay, moment] at h
    | some delay =>
      rw [hdelay] at h
      rw [await_of_le hdelay (ENat.natCast_le_natCast.mp h)]
      exact (min_eq_left h).symm
  · rw [await_of_lt h, min_eq_right h.le]

/-- The attempt of a caller who leaves before the wait is over. -/
theorem dispatch_of_leavesFirst (h : LeavesFirst settings leave reply batch) :
    ∃ left : Nat, leave = some left ∧ dispatch settings leave plan batch (reply batch) ids = {
      sent := some batch
      opening := [.planning 0]
      duration := left
      closing := [.execution (nanos left), count .cancelled .executor]
      outcome := .error (.failure .cancelled) } := by
  unfold LeavesFirst at h
  rw [← coe_fst_await] at h
  unfold dispatch
  generalize await settings.timeout (reply batch) = wait at h ⊢
  obtain ⟨duration, outcome⟩ := wait
  cases leave with
  | none => exact absurd h (by simp [moment])
  | some left =>
    have hleft : left < duration := ENat.natCast_lt_natCast.mp h
    exact ⟨left, rfl, by simp [Option.filter, hleft]⟩

/-- The attempt of a caller who stays until the wait is over, and so is there for the reply. -/
theorem dispatch_of_not_leavesFirst (hhere : leave ≠ some 0)
    (h : ¬LeavesFirst settings leave reply batch) {duration : Nat}
    {outcome : Except EngineError Result}
    (hwait : await settings.timeout (reply batch) = (duration, outcome)) :
    dispatch settings leave plan batch (reply batch) ids = {
      sent := some batch
      opening := [.planning 0]
      duration := duration
      closing := .execution (nanos duration) :: (conclude plan batch duration false ids outcome).1
      outcome := (conclude plan batch duration false ids outcome).2 } := by
  unfold LeavesFirst at h
  rw [← coe_fst_await, hwait] at h
  have hstays : leave.filter (· < duration) = none := by
    cases leave with
    | none => rfl
    | some left =>
      have hleft : ¬left < duration := fun hlt => h (ENat.natCast_lt_natCast.mpr hlt)
      simp [Option.filter, hleft]
  unfold dispatch
  rw [hwait]
  dsimp only
  rw [hstays, isGone_eq_false hhere hstays]

end

/-! ## Courses -/

section

variable (settings : Settings) (leave : Option Nat) (index : String) (body : Json)
  (reply : Batch → Reply) (ids : Nat → String)

/-- Whether the statement of a plan is sent, and what comes back in time, after `delay`
milliseconds. -/
structure Received (plan : Plan) (batch : Batch) (delay : Nat)
    (outcome : Except EngineError Result) : Prop where
  here : leave ≠ some 0
  prepared : Prepared settings index body plan batch
  inTime : InTime settings leave reply batch
  delay : (reply batch).delay = some delay
  outcome : (reply batch).outcome = outcome

/-- How an attempt can go. -/
inductive Course : Attempt → Prop
  | gone (gone : leave = some 0) : Course (early [] .cancelled .controller)
  | unprepared {failure : Failure} {component : Component} (here : leave ≠ some 0)
      (why : Unprepared settings index body failure component) :
      Course (early [.planning 0] failure component)
  | left {plan : Plan} {batch : Batch} {time : Nat} (here : leave ≠ some 0)
      (prepared : Prepared settings index body plan batch)
      (first : LeavesFirst settings leave reply batch) (goes : leave = some time) :
      Course ⟨some batch, [.planning 0], time,
        [.execution (nanos time), count .cancelled .executor], .error (.failure .cancelled)⟩
  | overdue {plan : Plan} {batch : Batch} (here : leave ≠ some 0)
      (prepared : Prepared settings index body plan batch)
      (first : OverdueFirst settings leave reply batch) :
      Course ⟨some batch, [.planning 0], settings.timeout,
        [.execution (nanos settings.timeout),
          count (Attempt.overdue settings.timeout).failure .executor],
        .error (.failure (Attempt.overdue settings.timeout).failure)⟩
  | refused {plan : Plan} {batch : Batch} {delay : Nat} {e : EngineError}
      (received : Received settings leave index body reply plan batch delay (.error e)) :
      Course ⟨some batch, [.planning 0], delay,
        [.execution (nanos delay), count e.failure .executor], .error (.failure e.failure)⟩
  | unmapped {plan : Plan} {batch : Batch} {delay : Nat} {result : Result} {failure : Failure}
      (received : Received settings leave index body reply plan batch delay (.ok result))
      (mapped : plan.response batch.layout result delay ids = .error (.failure failure)) :
      Course ⟨some batch, [.planning 0], delay,
        .execution (nanos delay) :: resultMetrics result ++ [count failure .mapper],
        .error (.failure failure)⟩
  | faulted {plan : Plan} {batch : Batch} {delay : Nat} {result : Result} {fault : Fault}
      (received : Received settings leave index body reply plan batch delay (.ok result))
      (mapped : plan.response batch.layout result delay ids = .error (.fault fault)) :
      Course ⟨some batch, [.planning 0], delay,
        .execution (nanos delay) :: resultMetrics result, .error (.fault fault)⟩
  | answered {plan : Plan} {batch : Batch} {delay : Nat} {result : Result} {response : Response}
      (received : Received settings leave index body reply plan batch delay (.ok result))
      (mapped : plan.response batch.layout result delay ids = .ok response) :
      Course ⟨some batch, [.planning 0], delay,
        .execution (nanos delay) :: resultMetrics result, .ok response⟩

/-- Whether the caller does not leave at the very moment that ends the wait otherwise. -/
def Apart : Prop :=
  ∀ plan batch, Prepared settings index body plan batch →
    leave = some 0 ∨ moment leave ≠ min (moment (reply batch).delay) settings.timeout

end

section

variable {settings : Settings} {leave : Option Nat} {index : String} {body : Json}
  {reply : Batch → Reply} {ids : Nat → String} {plan : Plan} {batch : Batch}

/-- The course of an attempt whose reply comes in time. -/
theorem Received.course {delay : Nat} {outcome : Except EngineError Result}
    (h : Received settings leave index body reply plan batch delay outcome) :
    Course settings leave index body reply ids ⟨some batch, [.planning 0], delay,
      .execution (nanos delay) :: (conclude plan batch delay false ids outcome).1,
      (conclude plan batch delay false ids outcome).2⟩ := by
  cases outcome with
  | error e => exact .refused h
  | ok result =>
    simp only [conclude]
    rcases hmapped : plan.response batch.layout result delay ids with (failure | fault) | response
    · exact .unmapped h hmapped
    · exact .faulted h hmapped
    · exact .answered h hmapped

/-- Every attempt goes in one of these ways. -/
theorem course_run (hapart : Apart settings leave index body reply) :
    Course settings leave index body reply ids (run settings leave index body reply ids) := by
  by_cases hhere : leave = some 0
  · rw [hhere, run_gone]
    exact .gone rfl
  rcases prepared_or_unprepared settings index body with
    ⟨plan, batch, hprepared⟩ | ⟨failure, component, hwhy⟩
  · rw [run_prepared hhere hprepared]
    by_cases hfirst : LeavesFirst settings leave reply batch
    · obtain ⟨time, htime, hrun⟩ := dispatch_of_leavesFirst hfirst
      rw [hrun]
      exact .left hhere hprepared hfirst htime
    · have hafter : min (moment (reply batch).delay) settings.timeout < moment leave :=
        lt_of_le_of_ne (not_lt.mp hfirst)
          ((hapart plan batch hprepared).resolve_left hhere).symm
      rcases le_or_gt (moment (reply batch).delay) settings.timeout with hle | hlate
      · rw [min_eq_left hle] at hafter
        cases hdelay : (reply batch).delay with
        | none => simp [hdelay, moment] at hle
        | some delay =>
          have hwait := await_of_le hdelay
            (ENat.natCast_le_natCast.mp (by simpa [hdelay, moment] using hle))
          rw [dispatch_of_not_leavesFirst hhere hfirst hwait]
          exact Received.course ⟨hhere, hprepared, ⟨hle, hafter⟩, hdelay, rfl⟩
      · rw [min_eq_right hlate.le] at hafter
        rw [dispatch_of_not_leavesFirst hhere hfirst (await_of_lt hlate)]
        exact .overdue hhere hprepared ⟨hlate, hafter⟩
  · rw [run_unprepared hhere hwhy]
    exact .unprepared hhere hwhy

end

section

variable {settings : Settings} {leave : Option Nat} {reply : Batch → Reply} {batch : Batch}

theorem LeavesFirst.not_inTime (h : LeavesFirst settings leave reply batch) :
    ¬InTime settings leave reply batch := fun hinTime =>
  absurd (hinTime.2.trans h) (not_lt.mpr (min_le_left _ _))

theorem OverdueFirst.not_inTime (h : OverdueFirst settings leave reply batch) :
    ¬InTime settings leave reply batch := fun hinTime => absurd h.1 (not_lt.mpr hinTime.1)

theorem OverdueFirst.not_leavesFirst (h : OverdueFirst settings leave reply batch) :
    ¬LeavesFirst settings leave reply batch := fun hfirst =>
  absurd (h.2.trans hfirst) (not_lt.mpr (min_le_right _ _))

theorem LeavesFirst.waitEnds {time : Nat} (h : LeavesFirst settings leave reply batch)
    (hleave : leave = some time) : WaitEnds settings leave reply batch time := by
  have hmoment : moment leave = time := by rw [hleave, moment]
  rw [WaitEnds, min_eq_left h.le, hmoment]

theorem OverdueFirst.waitEnds (h : OverdueFirst settings leave reply batch) :
    WaitEnds settings leave reply batch settings.timeout := by
  rw [WaitEnds, min_eq_right h.1.le, min_eq_right h.2.le]

theorem InTime.waitEnds {delay : Nat} (h : InTime settings leave reply batch)
    (hdelay : (reply batch).delay = some delay) : WaitEnds settings leave reply batch delay := by
  have hmoment : moment (reply batch).delay = delay := by rw [hdelay, moment]
  rw [WaitEnds, min_eq_left h.1, min_eq_right h.2.le, hmoment]

end

/-! ## The account -/

section

variable (settings : Settings) (leave : Option Nat) (index : String) (body : Json)
  (reply : Batch → Reply) (ids : Nat → String)

/-- What failure an attempt comes to, and the component that finds it. -/
inductive Detected : Failure → Component → Prop
  | gone (gone : leave = some 0) : Detected .cancelled .controller
  | unprepared {failure : Failure} {component : Component} (here : leave ≠ some 0)
      (why : Unprepared settings index body failure component) : Detected failure component
  | left {plan : Plan} {batch : Batch} (here : leave ≠ some 0)
      (prepared : Prepared settings index body plan batch)
      (first : LeavesFirst settings leave reply batch) : Detected .cancelled .executor
  | overdue {plan : Plan} {batch : Batch} (here : leave ≠ some 0)
      (prepared : Prepared settings index body plan batch)
      (first : OverdueFirst settings leave reply batch) :
      Detected (Attempt.overdue settings.timeout).failure .executor
  | refused {plan : Plan} {batch : Batch} {delay : Nat} {e : EngineError}
      (received : Received settings leave index body reply plan batch delay (.error e)) :
      Detected e.failure .executor
  | unmapped {plan : Plan} {batch : Batch} {delay : Nat} {result : Result} {failure : Failure}
      (received : Received settings leave index body reply plan batch delay (.ok result))
      (mapped : plan.response batch.layout result delay ids = .error (.failure failure)) :
      Detected failure .mapper

/-- Whether an attempt does not depend on what the replies hold and on how the hits are named, so
that nothing can have been mapped. -/
def Unmapped (attempt : Attempt) : Prop :=
  ∀ (other : Batch → Reply) (names : Nat → String),
    (∀ batch, (other batch).delay = (reply batch).delay) →
      run settings leave index body other names = attempt

/-- What an attempt accounts for. -/
structure Accounted (attempt : Attempt) : Prop where
  /-- One statement is sent where the caller is there and the request has one, and none else. -/
  sent : ∀ batch, attempt.sent = some batch ↔
    leave ≠ some 0 ∧ ∃ plan, Prepared settings index body plan batch
  failed : ∀ failure, attempt.outcome = .error (.failure failure) →
    ∃ component, Detected settings leave index body reply ids failure component ∧
      attempt.metrics.filter Metric.isFailure = [.failed failure.kind component]
  answered : ∀ response, attempt.outcome = .ok response →
    attempt.metrics.filter Metric.isFailure = [] ∧ ∃ plan batch delay result,
      Received settings leave index body reply plan batch delay (.ok result) ∧
        plan.response batch.layout result delay ids = .ok response
  /-- Nothing but mapping a result can stop without a failure. -/
  faulted : ∀ fault, attempt.outcome = .error (.fault fault) → ∃ plan batch delay result,
    Received settings leave index body reply plan batch delay (.ok result) ∧
      plan.response batch.layout result delay ids = .error (.fault fault)
  planning : attempt.metrics.filter Metric.isPlanning =
    if leave = some 0 then [] else [.planning 0]
  execution : ∀ batch, attempt.sent = some batch → ∃ time,
    WaitEnds settings leave reply batch time ∧
      attempt.metrics.filter Metric.isExecution = [.execution (nanos time)]
  noExecution : attempt.sent = none → attempt.metrics.filter Metric.isExecution = []
  payload : ∀ batch result, attempt.sent = some batch → InTime settings leave reply batch →
    (reply batch).outcome = .ok result →
      attempt.metrics.filter Metric.isPayload = [.payload result.payloadBytes]
  noPayload : (∀ batch result, attempt.sent = some batch → InTime settings leave reply batch →
    (reply batch).outcome ≠ .ok result) → attempt.metrics.filter Metric.isPayload = []
  left : ∀ batch, attempt.sent = some batch → LeavesFirst settings leave reply batch →
    attempt.outcome = .error (.failure .cancelled) ∧
      Unmapped settings leave index body reply attempt
  overdue : ∀ batch, attempt.sent = some batch → OverdueFirst settings leave reply batch →
    (∃ detail, attempt.outcome = .error (.failure (.executionTransient detail))) ∧
      Unmapped settings leave index body reply attempt

end

section

variable {settings : Settings} {leave : Option Nat} {index : String} {body : Json}
  {reply : Batch → Reply} {ids : Nat → String} {plan : Plan} {batch : Batch} {attempt : Attempt}

/-- A caller who leaves first is told so, and nothing has been mapped. -/
theorem run_of_leavesFirst (hhere : leave ≠ some 0)
    (hprepared : Prepared settings index body plan batch)
    (hfirst : LeavesFirst settings leave reply batch) :
    (run settings leave index body reply ids).outcome = .error (.failure .cancelled) ∧
      Unmapped settings leave index body reply (run settings leave index body reply ids) := by
  obtain ⟨time, htime, hrun⟩ := dispatch_of_leavesFirst hfirst
  rw [run_prepared hhere hprepared, hrun]
  refine ⟨rfl, fun other names hdelays => ?_⟩
  have hother : LeavesFirst settings leave other batch := by
    rw [LeavesFirst, hdelays]
    exact hfirst
  obtain ⟨left, hleft, hsame⟩ := dispatch_of_leavesFirst hother
  cases htime.symm.trans hleft
  rw [run_prepared hhere hprepared, hsame]

/-- Where the limit passes first the failure is a passing one, and nothing has been mapped. -/
theorem run_of_overdueFirst (hhere : leave ≠ some 0)
    (hprepared : Prepared settings index body plan batch)
    (hfirst : OverdueFirst settings leave reply batch) :
    (∃ detail, (run settings leave index body reply ids).outcome =
      .error (.failure (.executionTransient detail))) ∧
      Unmapped settings leave index body reply (run settings leave index body reply ids) := by
  rw [run_prepared hhere hprepared,
    dispatch_of_not_leavesFirst hhere hfirst.not_leavesFirst (await_of_lt hfirst.1)]
  refine ⟨⟨_, rfl⟩, fun other names hdelays => ?_⟩
  have hother : OverdueFirst settings leave other batch := by
    rw [OverdueFirst, hdelays]
    exact hfirst
  rw [run_prepared hhere hprepared,
    dispatch_of_not_leavesFirst hhere hother.not_leavesFirst (await_of_lt hother.1)]
  rfl

/-- What is measured once a result is there, apart from the time of the engine. -/
theorem filter_received (p : Metric → Bool) (hengine : ∀ time, p (.engine time) = false)
    (delay : Nat) (result : Result) :
    ([Metric.planning 0] ++ .execution (nanos delay) :: resultMetrics result).filter p =
      [Metric.planning 0, .execution (nanos delay), .payload result.payloadBytes].filter p := by
  unfold resultMetrics
  cases result.engineNanos with
  | none => rfl
  | some time => simp [List.filter_cons, hengine]

namespace Course

theorem sent_iff (h : Course settings leave index body reply ids attempt) (batch : Batch) :
    attempt.sent = some batch ↔
      leave ≠ some 0 ∧ ∃ plan, Prepared settings index body plan batch := by
  have hsome : ∀ {plan : Plan} {own : Batch}, leave ≠ some 0 →
      Prepared settings index body plan own → (some own = some batch ↔
        leave ≠ some 0 ∧ ∃ plan, Prepared settings index body plan batch) := by
    intro plan own here prepared
    constructor
    · rintro ⟨⟩
      exact ⟨here, plan, prepared⟩
    · rintro ⟨_, other, hother⟩
      rw [(prepared.unique hother).2]
  cases h with
  | gone gone =>
    constructor
    · rintro ⟨⟩
    · rintro ⟨here, _⟩
      exact absurd gone here
  | unprepared here why =>
    constructor
    · rintro ⟨⟩
    · rintro ⟨_, plan, prepared⟩
      exact absurd prepared why.not_prepared
  | left here prepared => exact hsome here prepared
  | overdue here prepared => exact hsome here prepared
  | refused received => exact hsome received.here received.prepared
  | unmapped received => exact hsome received.here received.prepared
  | faulted received => exact hsome received.here received.prepared
  | answered received => exact hsome received.here received.prepared

theorem failures_of_failure (h : Course settings leave index body reply ids attempt)
    {failure : Failure} (hfailure : attempt.outcome = .error (.failure failure)) :
    ∃ component, Detected settings leave index body reply ids failure component ∧
      attempt.metrics.filter Metric.isFailure = [.failed failure.kind component] := by
  cases h with
  | gone gone =>
    cases hfailure
    exact ⟨_, .gone gone, rfl⟩
  | unprepared here why =>
    cases hfailure
    exact ⟨_, .unprepared here why, rfl⟩
  | left here prepared first =>
    cases hfailure
    exact ⟨_, .left here prepared first, rfl⟩
  | overdue here prepared first =>
    cases hfailure
    exact ⟨_, .overdue here prepared first, rfl⟩
  | refused received =>
    cases hfailure
    exact ⟨_, .refused received, rfl⟩
  | unmapped received mapped =>
    cases hfailure
    refine ⟨_, .unmapped received mapped, ?_⟩
    rw [metrics, ← List.append_assoc, List.filter_append,
      filter_received Metric.isFailure fun _ => rfl]
    rfl
  | faulted => cases hfailure
  | answered => cases hfailure

theorem failures_of_response (h : Course settings leave index body reply ids attempt)
    {response : Response} (hresponse : attempt.outcome = .ok response) :
    attempt.metrics.filter Metric.isFailure = [] ∧ ∃ plan batch delay result,
      Received settings leave index body reply plan batch delay (.ok result) ∧
        plan.response batch.layout result delay ids = .ok response := by
  cases h with
  | answered received mapped =>
    cases hresponse
    refine ⟨?_, _, _, _, _, received, mapped⟩
    rw [metrics, filter_received Metric.isFailure fun _ => rfl]
    rfl
  | _ => cases hresponse

theorem exists_fault (h : Course settings leave index body reply ids attempt) {fault : Fault}
    (hfault : attempt.outcome = .error (.fault fault)) : ∃ plan batch delay result,
      Received settings leave index body reply plan batch delay (.ok result) ∧
        plan.response batch.layout result delay ids = .error (.fault fault) := by
  cases h with
  | faulted received mapped =>
    cases hfault
    exact ⟨_, _, _, _, received, mapped⟩
  | _ => cases hfault

theorem planning_eq (h : Course settings leave index body reply ids attempt) :
    attempt.metrics.filter Metric.isPlanning = if leave = some 0 then [] else [.planning 0] := by
  cases h with
  | gone gone =>
    rw [if_pos gone]
    rfl
  | unprepared here =>
    rw [if_neg here]
    rfl
  | left here =>
    rw [if_neg here]
    rfl
  | overdue here =>
    rw [if_neg here]
    rfl
  | refused received =>
    rw [if_neg received.here]
    rfl
  | unmapped received =>
    rw [if_neg received.here, metrics, ← List.append_assoc, List.filter_append,
      filter_received Metric.isPlanning fun _ => rfl]
    rfl
  | faulted received =>
    rw [if_neg received.here, metrics, filter_received Metric.isPlanning fun _ => rfl]
    rfl
  | answered received =>
    rw [if_neg received.here, metrics, filter_received Metric.isPlanning fun _ => rfl]
    rfl

theorem executions_of_sent (h : Course settings leave index body reply ids attempt) {batch : Batch}
    (hsent : attempt.sent = some batch) : ∃ time, WaitEnds settings leave reply batch time ∧
      attempt.metrics.filter Metric.isExecution = [.execution (nanos time)] := by
  cases h with
  | gone => cases hsent
  | unprepared => cases hsent
  | left _ _ first goes =>
    cases hsent
    exact ⟨_, first.waitEnds goes, rfl⟩
  | overdue _ _ first =>
    cases hsent
    exact ⟨_, first.waitEnds, rfl⟩
  | refused received =>
    cases hsent
    exact ⟨_, received.inTime.waitEnds received.delay, rfl⟩
  | unmapped received =>
    cases hsent
    refine ⟨_, received.inTime.waitEnds received.delay, ?_⟩
    rw [metrics, ← List.append_assoc, List.filter_append,
      filter_received Metric.isExecution fun _ => rfl]
    rfl
  | faulted received =>
    cases hsent
    refine ⟨_, received.inTime.waitEnds received.delay, ?_⟩
    rw [metrics, filter_received Metric.isExecution fun _ => rfl]
    rfl
  | answered received =>
    cases hsent
    refine ⟨_, received.inTime.waitEnds received.delay, ?_⟩
    rw [metrics, filter_received Metric.isExecution fun _ => rfl]
    rfl

theorem executions_of_not_sent (h : Course settings leave index body reply ids attempt)
    (hsent : attempt.sent = none) : attempt.metrics.filter Metric.isExecution = [] := by
  cases h with
  | gone => rfl
  | unprepared => rfl
  | _ => cases hsent

theorem payloads_of_received (h : Course settings leave index body reply ids attempt)
    {batch : Batch} {result : Result} (hsent : attempt.sent = some batch)
    (hinTime : InTime settings leave reply batch) (hresult : (reply batch).outcome = .ok result) :
    attempt.metrics.filter Metric.isPayload = [.payload result.payloadBytes] := by
  cases h with
  | gone => cases hsent
  | unprepared => cases hsent
  | left _ _ first =>
    cases hsent
    exact absurd hinTime first.not_inTime
  | overdue _ _ first =>
    cases hsent
    exact absurd hinTime first.not_inTime
  | refused received =>
    cases hsent
    cases hresult.symm.trans received.outcome
  | unmapped received =>
    cases hsent
    cases hresult.symm.trans received.outcome
    rw [metrics, ← List.append_assoc, List.filter_append,
      filter_received Metric.isPayload fun _ => rfl]
    rfl
  | faulted received =>
    cases hsent
    cases hresult.symm.trans received.outcome
    rw [metrics, filter_received Metric.isPayload fun _ => rfl]
    rfl
  | answered received =>
    cases hsent
    cases hresult.symm.trans received.outcome
    rw [metrics, filter_received Metric.isPayload fun _ => rfl]
    rfl

theorem payloads_of_not_received (h : Course settings leave index body reply ids attempt)
    (hnone : ∀ batch result, attempt.sent = some batch → InTime settings leave reply batch →
      (reply batch).outcome ≠ .ok result) : attempt.metrics.filter Metric.isPayload = [] := by
  cases h with
  | unmapped received => exact absurd received.outcome (hnone _ _ rfl received.inTime)
  | faulted received => exact absurd received.outcome (hnone _ _ rfl received.inTime)
  | answered received => exact absurd received.outcome (hnone _ _ rfl received.inTime)
  | _ => rfl

end Course

end

/-- Every attempt accounts for what it sends, measures and comes to, whatever the request is,
however the engine behaves, and whenever the caller leaves apart from the moment that ends the
wait. -/
theorem run_accounted (settings : Settings) (leave : Option Nat) (index : String) (body : Json)
    (reply : Batch → Reply) (ids : Nat → String) (hapart : Apart settings leave index body reply) :
    Accounted settings leave index body reply ids (run settings leave index body reply ids) := by
  have hcourse : Course settings leave index body reply ids
      (run settings leave index body reply ids) := course_run hapart
  constructor
  case sent => exact hcourse.sent_iff
  case failed => exact fun _ => hcourse.failures_of_failure
  case answered => exact fun _ => hcourse.failures_of_response
  case faulted => exact fun _ => hcourse.exists_fault
  case planning => exact hcourse.planning_eq
  case execution => exact fun _ => hcourse.executions_of_sent
  case noExecution => exact hcourse.executions_of_not_sent
  case payload => exact fun _ _ => hcourse.payloads_of_received
  case noPayload => exact hcourse.payloads_of_not_received
  case left =>
    intro batch hsent
    obtain ⟨hhere, plan, hprepared⟩ := (hcourse.sent_iff batch).mp hsent
    exact run_of_leavesFirst hhere hprepared
  case overdue =>
    intro batch hsent
    obtain ⟨hhere, plan, hprepared⟩ := (hcourse.sent_iff batch).mp hsent
    exact run_of_overdueFirst hhere hprepared

/-- An empty result after five milliseconds. -/
def emptyReply (_ : Batch) : Reply := ⟨some 5, .ok ⟨[], 64, none⟩⟩

/-- A caller who leaves after three milliseconds, where five were needed and ten allowed. -/
theorem run_accounted_leaving :
    Apart ⟨"db", 10⟩ (some 3) "logs" (.object []) emptyReply ∧
      let attempt := run ⟨"db", 10⟩ (some 3) "logs" (.object []) emptyReply fun _ => ""
      attempt.sent.isSome ∧ attempt.outcome = .error (.failure .cancelled) ∧
        attempt.metrics.filter Metric.isExecution = [.execution (nanos 3)] ∧
        attempt.metrics.filter Metric.isPayload = [] := by
  have hfirst (batch : Batch) : LeavesFirst ⟨"db", 10⟩ (some 3) emptyReply batch := by
    have hmin : ((3 : Nat) : ℕ∞) < min ((5 : Nat) : ℕ∞) ((10 : Nat) : ℕ∞) := by decide
    exact hmin
  have hapart : Apart ⟨"db", 10⟩ (some 3) "logs" (.object []) emptyReply := fun _ batch _ =>
    Or.inr (hfirst batch).ne
  have haccount := run_accounted ⟨"db", 10⟩ (some 3) "logs" (.object []) emptyReply (fun _ => "")
    hapart
  have hprepared : ∃ plan batch, Prepared ⟨"db", 10⟩ "logs" (.object []) plan batch :=
    ⟨_, _, _, rfl, rfl, rfl⟩
  obtain ⟨plan, batch, hprepared⟩ := hprepared
  have hsent := (haccount.sent batch).mpr ⟨by decide, plan, hprepared⟩
  obtain ⟨time, htime, hexecution⟩ := haccount.execution batch hsent
  refine ⟨hapart, by rw [hsent]; rfl, (haccount.left batch hsent (hfirst batch)).1, ?_, ?_⟩
  · have hthree : (time : ℕ∞) = (3 : Nat) := htime.trans (min_eq_left (hfirst batch).le)
    rw [hexecution, ENat.natCast_inj.mp hthree]
  · exact haccount.noPayload fun own _ _ hinTime _ => (hfirst own).not_inTime hinTime

end Attempt

end KustoSearch
