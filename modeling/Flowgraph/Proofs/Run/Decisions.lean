/-
  Flowgraph/Proofs/Run/Decisions.lean
  ===================================
  **The decisions of a run** — what the routers decide on the way, read off the log.  The modes
  of a run only select from its events (`Plan.runFrom_modes`), so the log is the same whatever
  they are, and it holds the decisions that a stream of them all carries (`Plan.decided_loop`).
-/
import Flowgraph.Proofs.Run.Events

namespace Flowgraph

def LogEvent.decides? : LogEvent → Option (String × Decision)
  | .routeSelected id condition target => some (id, ⟨condition, target⟩)
  | _ => none

def StreamEvent.decides? : StreamEvent → Option (String × Decision)
  | .route id condition target => some (id, ⟨condition, target⟩)
  | _ => none

/-- The decisions of a run, in order, each with its router. -/
def Run.decided (r : Run) : List (String × Decision) := r.log.filterMap LogEvent.decides?

variable {modes : Modes} {session : Session} {id : String} {state : State}

/-! ### Modes select -/

/-- What a run in the given modes is, if `r` is the run in all of them. -/
def Run.select (modes : Modes) (r : Run) : Run :=
  { r with events := r.events.filter modes.admits }

theorem Run.select_after (modes : Modes) (log : List LogEvent) (events : List StreamEvent)
    (r : Run) :
    (r.after log events).select modes =
      (r.select modes).after log (events.filter modes.admits) := by
  simp only [Run.select, Run.after, List.filter_append]

theorem Modes.filter_update_all (modes : Modes) (id : String) (state : State) :
    (Modes.all.update id state).filter modes.admits = modes.update id state := by
  rw [← select_worked, filter_select_all, select_worked]

theorem Modes.filter_decision_all (modes : Modes) (id : String) (d : Decision) :
    (Modes.all.decision id d).filter modes.admits = modes.decision id d := by
  rw [← select_routed, filter_select_all, select_routed]

def Advance.select (modes : Modes) (a : Advance) : Advance :=
  { a with events := a.events.filter modes.admits }

theorem Step.perform_modes (step : Step) (modes : Modes) (session : Session) (id : String)
    (state : State) :
    step.perform modes session id state =
      ((step.perform .all session id state).1, (step.perform .all session id state).2.1,
        (step.perform .all session id state).2.2.map (Advance.select modes)) := by
  unfold perform
  cases step.action with
  | work run next =>
    dsimp only
    cases (session.execute id step.policy fun n => run n state).result id with
    | ok s => simp only [StepResult.map, Advance.select, Modes.filter_update_all]
    | failed error => rfl
    | panicked text => rfl
  | branch choose routes incoming =>
    dsimp only
    cases (dispatch session id step.policy choose routes incoming state).2.2 with
    | ok d => simp only [StepResult.map, Advance.select, Modes.filter_decision_all]
    | failed error => rfl
    | panicked text => rfl

namespace Plan

variable {p : Plan} {allowed taken : Nat}

theorem runFrom_modes (p : Plan) (modes : Modes) (allowed taken : Nat) (session : Session)
    (id : String) (state : State) :
    p.runFrom modes allowed taken session id state =
      (p.runFrom .all allowed taken session id state).select modes := by
  induction allowed generalizing taken session id state with
  | zero => rfl
  | succ allowed ih =>
    unfold runFrom
    cases p.step? id with
    | none => rfl
    | some step =>
      dsimp only
      rw [step.perform_modes modes]
      obtain ⟨log, session', result⟩ := step.perform .all session id state
      cases result with
      | failed error => rfl
      | panicked text => rfl
      | ok advance =>
        simp only [StepResult.map, Advance.select]
        cases p.goesOn id advance.next with
        | none => rfl
        | some next =>
          dsimp only
          rw [ih, Run.select_after]

/-! ### The log tells the decisions -/

theorem decides_execution {α : Type} (e : Execution α) (id : String) (policy : RetryPolicy) :
    (e.log id policy).filterMap LogEvent.decides? = [] := by
  simp [Execution.log, List.filterMap_map, Function.comp_def, LogEvent.decides?]

theorem decides_perform_all (step : Step) (session : Session) (id : String) (state : State) :
    (step.perform .all session id state).1.filterMap LogEvent.decides? =
      (step.perform .all session id state).2.2.events.filterMap StreamEvent.decides? := by
  unfold Step.perform
  cases step.action with
  | work run next =>
    dsimp only
    rw [decides_execution]
    cases (session.execute id step.policy fun n => run n state).result id <;> rfl
  | branch choose routes incoming =>
    simp only [dispatch, List.filterMap_append, decides_execution, List.nil_append]
    cases (session.execute id step.policy fun n => choose n state incoming).result id with
    | ok condition =>
      simp only [resolve]
      cases routes.get? condition <;> rfl
    | failed error => rfl
    | panicked text => rfl

theorem decided_runFrom_all (p : Plan) (allowed taken : Nat) (session : Session) (id : String)
    (state : State) :
    (p.runFrom .all allowed taken session id state).decided =
      (p.runFrom .all allowed taken session id state).events.filterMap StreamEvent.decides? := by
  induction allowed generalizing taken session id state with
  | zero => rfl
  | succ allowed ih =>
    unfold runFrom
    cases p.step? id with
    | none => rfl
    | some step =>
      have hstep := decides_perform_all step session id state
      dsimp only
      revert hstep
      obtain ⟨log, session', result⟩ := step.perform .all session id state
      intro hstep
      cases result with
      | failed error => exact hstep
      | panicked text => exact hstep
      | ok advance =>
        dsimp only [StepResult.events] at hstep ⊢
        have hlog : (LogEvent.nodeStarted id step.label :: log ++
            [LogEvent.nodeCompleted id advance.next]).filterMap LogEvent.decides? =
            advance.events.filterMap StreamEvent.decides? := by
          simp only [List.cons_append, List.filterMap_cons, List.filterMap_append,
            List.filterMap_nil, LogEvent.decides?, hstep, List.append_nil]
        cases p.goesOn id advance.next with
        | none => exact hlog
        | some next =>
          have hrest := ih (taken + 1) session' next advance.state
          rw [Run.decided] at hrest
          simp only [Run.decided, Run.after, List.filterMap_append] at hlog hrest ⊢
          rw [hlog, hrest]

/-- Whatever the modes, a run decides what the stream of all events tells. -/
theorem decided_loop (p : Plan) (modes : Modes) (session : Session) (state : State) :
    (p.loop modes session state).decided =
      (p.loop .all session state).events.filterMap StreamEvent.decides? := by
  rw [loop, runFrom_modes]
  exact p.decided_runFrom_all _ _ _ _ _

theorem decided_invoke (p : Plan) (session : Session) (state : State) :
    (p.invoke session state).decided = (p.loop {} session state).decided := by
  have hclosing : ∀ ending, (closingLog ending).filterMap LogEvent.decides? = [] := by
    intro ending
    cases ending <;> rfl
  simp only [invoke, Run.decided, List.filterMap_cons, List.filterMap_append, hclosing,
    List.append_nil, LogEvent.decides?]

theorem decided_stream (p : Plan) (modes : Modes) (session : Session) (state : State) :
    (p.stream modes session state).decided = (p.loop modes session state).decided := by
  have hclosing : ∀ ending, (closingLog ending).filterMap LogEvent.decides? = [] ∧
      (closing ending).1.filterMap LogEvent.decides? = [] := by
    intro ending
    cases ending <;> exact ⟨rfl, rfl⟩
  simp only [stream, Run.decided, List.filterMap_cons, List.filterMap_append, hclosing,
    List.append_nil, LogEvent.decides?]

end Plan

end Flowgraph
