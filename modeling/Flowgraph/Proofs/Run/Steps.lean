/-
  Flowgraph/Proofs/Run/Steps.lean
  ===============================
  **A step of a run** — what performing a step gives once it is known what the calls of its node
  came to (`Step.perform_work`, `Step.perform_branch`), and what the loop does with each result
  (`Plan.runFrom_goesOn` and those after it).  Nothing else about runs looks into the loop.
-/
import Flowgraph.Proofs.Retry.Attempts
import Flowgraph.Run

namespace Flowgraph

variable {α : Type} {modes : Modes} {session session' : Session} {id : String} {state : State}

/-! ### The calls of a node -/

/-- What call number `n` of a node comes to, the calls counted from here on. -/
def Session.outcomes (session : Session) (id : String) (call : Nat → Outcome α) (n : Nat) :
    Outcome α :=
  call (session.calls id + (n - 1))

/-- Sessions in which a node was called equally often go on alike with it. -/
theorem Session.outcomes_congr (h : session'.calls id = session.calls id)
    (call : Nat → Outcome α) : session'.outcomes id call = session.outcomes id call := by
  funext n
  simp only [outcomes, h]

theorem Session.execute_eq {policy : RetryPolicy} {call : Nat → Outcome α} {k : Nat}
    {last : Outcome α} (h : policy.Attempts (session.outcomes id call) k last) :
    (session.execute id policy call).calls = k ∧ (session.execute id policy call).last = last :=
  RetryPolicy.attempts_iff.1 h

/-- What the last of `calls` calls makes of the step of a node. -/
def Outcome.result (id : String) (calls : Nat) : Outcome α → StepResult α
  | .ok value => .ok value
  | .failed error => .failed (.node id calls error)
  | .panicked text => .panicked text

theorem Execution.result_eq (e : Execution α) (id : String) :
    e.result id = e.last.result id e.calls := by
  unfold Execution.result
  cases e.last <;> rfl

/-! ### Performing a step -/

theorem dispatch_of_attempts {policy : RetryPolicy} {k : Nat} {last : Outcome String}
    {choose : Nat → State → List String → Outcome String} {incoming : List String}
    (h : policy.Attempts (session.outcomes id fun n => choose n state incoming) k last)
    (routes : RouteTable) :
    (dispatch session id policy choose routes incoming state).2 =
      (session.addCalls id k, (resolve id routes (last.result id k)).2) := by
  obtain ⟨hcalls, hlast⟩ := Session.execute_eq h
  simp only [dispatch, Execution.result_eq, hcalls, hlast]

/-- The events of a step.  Only one that is completed has any. -/
def StepResult.events : StepResult Advance → List StreamEvent
  | .ok advance => advance.events
  | .failed _ | .panicked _ => []

namespace Step

variable {step : Step} {k : Nat}

theorem perform_work {run : Nat → State → Outcome State} {next : Option String}
    {last : Outcome State} (haction : step.action = .work run next)
    (h : step.policy.Attempts (session.outcomes id fun n => run n state) k last) :
    (step.perform modes session id state).2 = (session.addCalls id k,
      (last.result id k).map fun state' => ⟨modes.update id state', state', next⟩) := by
  obtain ⟨hcalls, hlast⟩ := Session.execute_eq h
  unfold perform
  rw [haction]
  simp only [Execution.result_eq, hcalls, hlast]

theorem perform_branch {choose : Nat → State → List String → Outcome String}
    {routes : RouteTable} {incoming : List String} {last : Outcome String}
    (haction : step.action = .branch choose routes incoming)
    (h : step.policy.Attempts (session.outcomes id fun n => choose n state incoming) k last) :
    (step.perform modes session id state).2 = (session.addCalls id k,
      (resolve id routes (last.result id k)).2.map fun d =>
        ⟨modes.decision id d, state, some d.target⟩) := by
  have hdispatch := dispatch_of_attempts h routes
  unfold perform
  rw [haction]
  simp only [hdispatch]

end Step

/-! ### Entering nodes -/

/-- The node that an event of the log tells the run to enter. -/
def LogEvent.enters? : LogEvent → Option String
  | .nodeStarted id _ => some id
  | _ => none

/-- The nodes that a run enters, in order and as often as it does. -/
def Run.entered (r : Run) : List String := r.log.filterMap LogEvent.enters?

theorem Execution.enters_log (e : Execution α) (id : String) (policy : RetryPolicy) :
    (e.log id policy).filterMap LogEvent.enters? = [] := by
  simp [Execution.log, List.filterMap_map, Function.comp_def, LogEvent.enters?]

theorem enters_resolve (id : String) (routes : RouteTable) (result : StepResult String) :
    (resolve id routes result).1.filterMap LogEvent.enters? = [] := by
  unfold resolve
  split
  · split <;> rfl
  · rfl
  · rfl

/-- To perform a step is not to enter another node. -/
theorem Step.enters_perform (step : Step) :
    (step.perform modes session id state).1.filterMap LogEvent.enters? = [] := by
  unfold perform
  split
  · exact Execution.enters_log _ _ _
  · simp only [dispatch, List.filterMap_append, Execution.enters_log, enters_resolve,
      List.append_nil]

/-! ### The loop -/

namespace Plan

variable {p : Plan} {step : Step} {allowed taken : Nat}

/-- The log of a step up to what came of it. -/
def stepLog (modes : Modes) (session : Session) (id : String) (state : State) (step : Step) :
    List LogEvent :=
  .nodeStarted id step.label :: (step.perform modes session id state).1

theorem enters_stepLog (step : Step) :
    (stepLog modes session id state step).filterMap LogEvent.enters? = [id] := by
  rw [stepLog, List.filterMap_cons]
  simp only [LogEvent.enters?, Step.enters_perform]

theorem enters_stepLog_completed (step : Step) (next : Option String) :
    (stepLog modes session id state step ++ [LogEvent.nodeCompleted id next]).filterMap
      LogEvent.enters? = [id] := by
  rw [List.filterMap_append, enters_stepLog]
  rfl

theorem runFrom_goesOn {advance : Advance} {next : String} (hstep : p.step? id = some step)
    (hperform : (step.perform modes session id state).2 = (session', .ok advance))
    (hnext : p.goesOn id advance.next = some next) :
    p.runFrom modes (allowed + 1) taken session id state =
      (p.runFrom modes allowed (taken + 1) session' next advance.state).after
        (stepLog modes session id state step ++ [.nodeCompleted id advance.next])
        advance.events := by
  rw [runFrom, hstep]
  simp only [hperform, hnext, stepLog]

theorem runFrom_completed {advance : Advance} (hstep : p.step? id = some step)
    (hperform : (step.perform modes session id state).2 = (session', .ok advance))
    (hnext : p.goesOn id advance.next = none) :
    p.runFrom modes (allowed + 1) taken session id state =
      ⟨stepLog modes session id state step ++ [.nodeCompleted id advance.next],
        advance.events, session', .completed advance.state (taken + 1)⟩ := by
  rw [runFrom, hstep]
  simp only [hperform, hnext, stepLog]

theorem runFrom_failed {error : RunError} (hstep : p.step? id = some step)
    (hperform : (step.perform modes session id state).2 = (session', .failed error)) :
    p.runFrom modes (allowed + 1) taken session id state =
      ⟨stepLog modes session id state step, [], session', .failed error⟩ := by
  rw [runFrom, hstep]
  simp only [hperform, stepLog]

theorem runFrom_panicked {text : Option String} (hstep : p.step? id = some step)
    (hperform : (step.perform modes session id state).2 = (session', .panicked text)) :
    p.runFrom modes (allowed + 1) taken session id state =
      ⟨stepLog modes session id state step, [], session', .panicked id text⟩ := by
  rw [runFrom, hstep]
  simp only [hperform, stepLog]

/-- How a run ends with what came of a step, unless it goes on. -/
def ending? (p : Plan) (id : String) (taken : Nat) : StepResult Advance → Option Run.Ending
  | .ok advance =>
    if p.goesOn id advance.next = none then some (.completed advance.state (taken + 1)) else none
  | .failed error => some (.failed error)
  | .panicked text => some (.panicked id text)

theorem runFrom_ends {result : StepResult Advance} {ending : Run.Ending}
    (hstep : p.step? id = some step)
    (hperform : (step.perform modes session id state).2 = (session', result))
    (hending : p.ending? id taken result = some ending) :
    ∃ log, log.filterMap LogEvent.enters? = [id] ∧
      ∀ allowed, p.runFrom modes (allowed + 1) taken session id state =
        ⟨log, result.events, session', ending⟩ := by
  cases result with
  | ok advance =>
    simp only [ending?] at hending
    split at hending
    · next hnext =>
      cases hending
      exact ⟨_, enters_stepLog_completed step advance.next,
        fun _ => runFrom_completed hstep hperform hnext⟩
    · cases hending
  | failed error =>
    cases hending
    exact ⟨_, enters_stepLog step, fun _ => runFrom_failed hstep hperform⟩
  | panicked text =>
    cases hending
    exact ⟨_, enters_stepLog step, fun _ => runFrom_panicked hstep hperform⟩

end Plan

end Flowgraph
