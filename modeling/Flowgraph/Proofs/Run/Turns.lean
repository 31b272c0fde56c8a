/-
  Flowgraph/Proofs/Run/Turns.lean
  ===============================
  **Runs that take turns** — a run that is the only one comes to what `invoke` says, with the same
  log and the same calls (`Plan.invokeAll_singleton`).  So do several at the same time, as far as
  their ends go, if no node tells one call from another (`Plan.endings_invokeAll`).

  For the first, the calls that one step takes turn by turn are those that its policy makes of
  them at once (`Plan.takeTurns_step`), and step by step the turns are then those of the loop
  (`Plan.followsLoop`).  For the second, a turn leaves every run where it would come to by
  itself, whenever the turn is taken and whatever has been called before (`Plan.standing_turn`).
-/
import Flowgraph.Proofs.Run.Steps
import Flowgraph.Run.Concurrent

namespace Flowgraph

/-! ### The calls of a step -/

/-- What a step makes of what was found out about a call: only the last has a result. -/
def Verdict.settle {α β : Type} (finish : StepResult α → List LogEvent × StepResult β) :
    Verdict α → List LogEvent × Verdict β
  | .again retry => ([], .again retry)
  | .done result => ((finish result).1, .done (finish result).2)

/-- What the calls of a step on a state come to, and what the step makes of the last of them. -/
structure Step.Calls (step : Step) (id : String) (state : State) {α : Type}
    (call : Nat → Outcome α) (finish : StepResult α → List LogEvent × StepResult Advance) :
    Prop where
  /-- One call after the other. -/
  call_eq : ∀ session allowed taken attempt,
    step.call session ⟨allowed, taken, id, attempt, state⟩ =
      (step.policy.judge id attempt (session.factor id (session.calls id + 1))
        (call (session.calls id))).settle finish
  /-- All calls at once. -/
  perform_eq : ∀ session, step.perform {} session id state =
    let e := session.execute id step.policy call
    (e.log id step.policy ++ (finish (e.result id)).1, session.addCalls id e.calls,
      (finish (e.result id)).2)

/-- A call under a count of those before the step. -/
theorem Step.Calls.call_eq_judge {step : Step} {id : String} {state : State} {α : Type}
    {call : Nat → Outcome α} {finish : StepResult α → List LogEvent × StepResult Advance}
    (h : step.Calls id state call finish) {session : Session} {factor : Nat → Binary64}
    {made attempt : Nat} (hfactor : session.factor id = factor)
    (hmade : session.calls id + 1 = made + attempt) (hpos : 0 < attempt) (allowed taken : Nat) :
    step.call session ⟨allowed, taken, id, attempt, state⟩ =
      (step.policy.judge id attempt (factor (made + attempt))
        (call (made + (attempt - 1)))).settle finish := by
  have hnumber : session.calls id = made + (attempt - 1) := by omega
  rw [h.call_eq, hfactor, hmade, hnumber]

/-- All calls come to the same. -/
def Action.IsSteady : Action → Prop
  | .work run _ => ∀ n state, run n state = run 0 state
  | .branch choose _ _ => ∀ n state incoming, choose n state incoming = choose 0 state incoming

theorem Step.exists_calls (step : Step) (id : String) (state : State) :
    ∃ (α : Type) (call : Nat → Outcome α) (finish : _), step.Calls id state call finish ∧
      (step.action.IsSteady → ∀ n, call n = call 0) := by
  obtain ⟨label, action, policy⟩ := step
  cases action with
  | work run next =>
    refine ⟨State, fun n => run n state,
      fun result => ([], result.map fun state => ⟨[], state, next⟩), ⟨?_, ?_⟩,
      fun hsteady n => hsteady n state⟩
    · intro session allowed taken attempt
      simp only [call]
      split
      · next h => rw [h, Verdict.settle]
      · next h => rw [h, Verdict.settle]
    · intro session
      simp only [perform, List.append_nil]
      rfl
  | branch choose routes incoming =>
    refine ⟨String, fun n => choose n state incoming,
      fun result => ((resolve id routes result).1,
        (resolve id routes result).2.map fun d => ⟨[], state, some d.target⟩), ⟨?_, ?_⟩,
      fun hsteady n => hsteady n state incoming⟩
    · intro session allowed taken attempt
      simp only [call]
      split
      · next h => rw [h, Verdict.settle]
      · next h => rw [h, Verdict.settle]
    · intro session
      rfl

namespace RetryPolicy

variable {α : Type} {p : RetryPolicy} {id : String} {attempt : Nat} {factor : Binary64}
variable {error : NodeError}

theorem judge_of_again {retry : Retry} (h : p.again? attempt factor error = some retry) :
    p.judge (α := α) id attempt factor (.failed error) = .again retry := by
  simp only [judge, h]

theorem judge_of_last (h : p.again? attempt factor error = none) :
    p.judge (α := α) id attempt factor (.failed error) = .done (.failed (.node id attempt error)) := by
  simp only [judge, h]

theorem judge_of_not_failed {outcome : Outcome α} (h : ∀ error, outcome ≠ .failed error) :
    p.judge id attempt factor outcome = .done (outcome.result id attempt) := by
  cases outcome with
  | ok value => rfl
  | failed error => exact absurd rfl (h error)
  | panicked text => rfl

end RetryPolicy

/-! ### The only run -/

/-- What runs give after something was logged. -/
def Runs.after (log : List LogEvent) (r : Runs) : Runs := { r with log := log ++ r.log }

theorem Runs.after_after (log log' : List LogEvent) (r : Runs) :
    (r.after log').after log = r.after (log ++ log') := by
  simp only [after, List.append_assoc]

/-- What a run gives that is the only one. -/
def Run.alone (r : Run) : Runs := ⟨r.log ++ Plan.closingLog r.ending, r.session, [r.ending]⟩

theorem Run.alone_after (log : List LogEvent) (events : List StreamEvent) (r : Run) :
    (r.after log events).alone = r.alone.after log := by
  simp only [alone, Run.after, Runs.after, List.append_assoc]

namespace Plan

variable {p : Plan} {session : Session} {order : Nat} {now : Moment} {task : Task} {step : Step}
variable {allowed taken attempt : Nat} {id : String} {state : State}

/-- The log at the beginning of a run, if a turn begins with it. -/
def opening (p : Plan) (task : Task) : List LogEvent :=
  if task.taken = 0 ∧ task.attempt = 1 then [.runStarted p.start] else []

/-- A further call in a step begins nothing. -/
theorem opening_again (p : Plan) (step : Step) (hpos : 0 < attempt) :
    let task : Task := ⟨allowed, taken, id, attempt + 1, state⟩
    p.opening task ++ task.openingLog step = [] := by
  have hlater : attempt + 1 ≠ 1 := by omega
  simp only [opening, Task.openingLog, hlater, and_false, if_false, List.append_nil]

theorem takeTurns_ended (p : Plan) (session : Session) (order : Nat) (ending : Run.Ending) :
    p.takeTurns session order [.ended ending] = ⟨[], session, [ending]⟩ := by
  rw [takeTurns]
  rfl

theorem takeTurns_due (p : Plan) (session : Session) (order : Nat) (now : Moment) (task : Task) :
    p.takeTurns session order [.due now task] =
      let turn := p.turn session now order task
      (p.takeTurns turn.session (order + 1) [turn.progress]).after (p.turnLog task turn) := by
  rw [takeTurns]
  rfl

/-- What is left of a run once a step has come to a result. -/
def onward (p : Plan) (allowed taken : Nat) (session : Session) (id : String) :
    StepResult Advance → Run
  | .ok advance =>
    match p.goesOn id advance.next with
    | some next =>
      (p.runFrom {} allowed (taken + 1) session next advance.state).after
        [.nodeCompleted id advance.next] advance.events
    | none =>
      ⟨[.nodeCompleted id advance.next], advance.events, session,
        .completed advance.state (taken + 1)⟩
  | .failed error => ⟨[], [], session, .failed error⟩
  | .panicked text => ⟨[], [], session, .panicked id text⟩

theorem runFrom_eq_onward (hstep : p.step? id = some step) {log : List LogEvent}
    {session' : Session} {result : StepResult Advance}
    (hperform : step.perform {} session id state = (log, session', result)) :
    p.runFrom {} (allowed + 1) taken session id state =
      (p.onward allowed taken session' id result).after (.nodeStarted id step.label :: log) [] := by
  rw [runFrom, hstep]
  simp only [hperform]
  cases result with
  | ok advance =>
    cases hnext : p.goesOn id advance.next with
    | none => simp only [onward, hnext, Run.after, List.nil_append]
    | some next =>
      simp only [onward, hnext, Run.after, List.append_assoc, List.nil_append]
  | failed error => simp only [onward, Run.after, List.append_nil]
  | panicked text => simp only [onward, Run.after, List.append_nil]

/-- A call that is repeated leaves the run in the same step, with one call more. -/
theorem takeTurns_again (hstep : p.step? id = some step) {log : List LogEvent} {retry : Retry}
    (hcall : step.call session ⟨allowed + 1, taken, id, attempt, state⟩ = (log, .again retry)) :
    let task : Task := ⟨allowed + 1, taken, id, attempt, state⟩
    p.takeTurns session order [.due now task] =
      (p.takeTurns (session.addCalls id 1) (order + 1)
        [.due (now.after retry.delay order) ⟨allowed + 1, taken, id, attempt + 1, state⟩]).after
        (p.opening task ++ task.openingLog step ++ log ++
          [.retrying id retry step.policy.budget]) := by
  intro task
  rw [takeTurns_due]
  simp only [turn, task, hstep, hcall, turnLog, opening, List.append_assoc]

/-- With so many steps left, a run that is the only one goes the way of the loop. -/
def FollowsLoop (p : Plan) (allowed : Nat) : Prop :=
  ∀ session order now taken id state,
    p.takeTurns session order [.due now ⟨allowed, taken, id, 1, state⟩] =
      (p.runFrom {} allowed taken session id state).alone.after
        (p.opening ⟨allowed, taken, id, 1, state⟩)

/-- The last call of a step leaves the run where the step does. -/
theorem takeTurns_done (hstep : p.step? id = some step) (hrest : p.FollowsLoop allowed)
    {log : List LogEvent} {result : StepResult Advance}
    (hcall : step.call session ⟨allowed + 1, taken, id, attempt, state⟩ = (log, .done result)) :
    let task : Task := ⟨allowed + 1, taken, id, attempt, state⟩
    p.takeTurns session order [.due now task] =
      (p.onward allowed taken (session.addCalls id 1) id result).alone.after
        (p.opening task ++ task.openingLog step ++ log) := by
  intro task
  rw [takeTurns_due]
  simp only [turn, task, hstep, hcall]
  cases result with
  | ok advance =>
    cases hnext : p.goesOn id advance.next with
    | some next =>
      have hlater : taken + 1 ≠ 0 := Nat.succ_ne_zero taken
      simp only [onward, hnext, hrest _ _ _ _ _ _, turnLog, opening, hlater, false_and,
        ↓reduceIte, Run.alone_after, Runs.after_after, List.append_assoc, List.append_nil]
    | none =>
      simp only [onward, hnext, takeTurns_ended, turnLog, opening, Run.alone, Runs.after,
        List.append_assoc, List.append_nil]
  | failed error =>
    simp only [onward, takeTurns_ended, turnLog, opening, Run.alone, Runs.after,
      List.append_assoc, List.nil_append, List.append_nil]
  | panicked text =>
    simp only [onward, takeTurns_ended, turnLog, opening, Run.alone, Runs.after,
      List.append_assoc, List.nil_append, List.append_nil]

/-- What a run comes to that is in a step, given the calls that are left of it. -/
def inStep {α : Type} (p : Plan) (step : Step)
    (finish : StepResult α → List LogEvent × StepResult Advance) (allowed taken : Nat)
    (session : Session) (id : String) (attempt : Nat) (e : Execution α) : Runs :=
  let ended := finish (e.last.result id (attempt + e.retries.length))
  (p.onward allowed taken (session.addCalls id e.calls) id ended.2).alone.after
    (e.log id step.policy ++ ended.1)

theorem inStep_cons {α : Type} (p : Plan) (step : Step)
    (finish : StepResult α → List LogEvent × StepResult Advance) (allowed taken : Nat)
    (session : Session) (id : String) (attempt : Nat) (retry : Retry) (e : Execution α) :
    p.inStep step finish allowed taken session id attempt ⟨retry :: e.retries, e.last⟩ =
      (p.inStep step finish allowed taken (session.addCalls id 1) id (attempt + 1) e).after
        [.retrying id retry step.policy.budget] := by
  have hattempt : attempt + (e.retries.length + 1) = attempt + 1 + e.retries.length := by omega
  have hcalls : e.retries.length + 1 + 1 = 1 + (e.retries.length + 1) := by omega
  simp only [inStep, Execution.calls, Execution.log, List.length_cons, List.map_cons, hattempt,
    hcalls, Session.addCalls_addCalls, Runs.after_after, List.cons_append, List.nil_append]

theorem inStep_first {α : Type} (p : Plan) (step : Step)
    (finish : StepResult α → List LogEvent × StepResult Advance) (allowed taken : Nat)
    (session : Session) (id : String) (e : Execution α) :
    p.inStep step finish allowed taken session id 1 e =
      (p.onward allowed taken (session.addCalls id e.calls) id (finish (e.result id)).2).alone.after
        (e.log id step.policy ++ (finish (e.result id)).1) := by
  have hcalls : 1 + e.retries.length = e.calls := Nat.add_comm _ _
  rw [inStep, hcalls, Execution.result_eq]

theorem takeTurns_last {α : Type} {finish : StepResult α → List LogEvent × StepResult Advance}
    (hstep : p.step? id = some step) (hrest : p.FollowsLoop allowed) {last : Outcome α}
    (hcall : step.call session ⟨allowed + 1, taken, id, attempt, state⟩ =
      (Verdict.done (last.result id attempt)).settle finish) :
    let task : Task := ⟨allowed + 1, taken, id, attempt, state⟩
    p.takeTurns session order [.due now task] =
      (p.inStep step finish allowed taken session id attempt ⟨[], last⟩).after
        (p.opening task ++ task.openingLog step) := by
  dsimp only
  rw [takeTurns_done hstep hrest hcall, inStep, Runs.after_after]
  rfl

/-- Call by call a run comes to what the policy makes of the calls that are left of the step.
    `made` counts the calls before the step. -/
theorem takeTurns_step {α : Type} {call : Nat → Outcome α}
    {finish : StepResult α → List LogEvent × StepResult Advance}
    (hcalls : step.Calls id state call finish) (hstep : p.step? id = some step)
    (hrest : p.FollowsLoop allowed) {factor : Nat → Binary64} {made : Nat}
    (hfactor : session.factor id = factor) (hmade : session.calls id + 1 = made + attempt)
    (hpos : 0 < attempt) :
    let task : Task := ⟨allowed + 1, taken, id, attempt, state⟩
    p.takeTurns session order [.due now task] =
      (p.inStep step finish allowed taken session id attempt
        (step.policy.executeFrom (fun n => factor (made + n)) (fun n => call (made + (n - 1)))
          attempt)).after (p.opening task ++ task.openingLog step) := by
  dsimp only
  fun_induction RetryPolicy.executeFrom step.policy (fun n => factor (made + n))
    (fun n => call (made + (n - 1))) attempt generalizing session order now with
  | case1 attempt error hfailed hlast =>
    have hcall := hcalls.call_eq_judge hfactor hmade hpos (allowed + 1) taken
    rw [hfailed, RetryPolicy.judge_of_last hlast] at hcall
    exact takeTurns_last hstep hrest hcall
  | case2 attempt error hfailed retry hagain rest =>
    rename_i ih
    have hcall := hcalls.call_eq_judge hfactor hmade hpos (allowed + 1) taken
    rw [hfailed, RetryPolicy.judge_of_again hagain] at hcall
    have hfactor' : (session.addCalls id 1).factor id = factor := hfactor
    have hmade' : (session.addCalls id 1).calls id + 1 = made + (attempt + 1) := by
      rw [Session.calls_addCalls, if_pos rfl]
      omega
    rw [takeTurns_again hstep hcall, ih hfactor' hmade' (Nat.succ_pos _), inStep_cons,
      opening_again p step hpos]
    simp only [Runs.after_after, List.append_nil]
    rfl
  | case3 attempt hnot =>
    have hcall := hcalls.call_eq_judge hfactor hmade hpos (allowed + 1) taken
    rw [RetryPolicy.judge_of_not_failed hnot] at hcall
    exact takeTurns_last hstep hrest hcall

theorem followsLoop (p : Plan) (allowed : Nat) : p.FollowsLoop allowed := by
  induction allowed with
  | zero =>
    intro session order now taken id state
    rw [takeTurns_due]
    simp only [turn, takeTurns_ended, turnLog, opening, runFrom, Run.alone, Runs.after,
      List.append_nil, List.nil_append]
  | succ allowed ih =>
    intro session order now taken id state
    cases hstep : p.step? id with
    | none =>
      rw [takeTurns_due]
      simp only [turn, hstep, takeTurns_ended, turnLog, opening, runFrom, Run.alone, Runs.after,
        List.append_nil, List.nil_append]
    | some step =>
      obtain ⟨α, call, finish, hcalls, -⟩ := step.exists_calls id state
      let task : Task := ⟨allowed + 1, taken, id, 1, state⟩
      have hturns : p.takeTurns session order [.due now task] =
          (p.inStep step finish allowed taken session id 1
            (session.execute id step.policy call)).after
            (p.opening task ++ task.openingLog step) :=
        takeTurns_step hcalls hstep ih rfl rfl Nat.one_pos
      rw [hturns, inStep_first, runFrom_eq_onward hstep (hcalls.perform_eq session),
        Run.alone_after, Runs.after_after, Runs.after_after, List.append_assoc]
      rfl

/-- A run that is the only one is a run of the loop. -/
theorem invokeAll_singleton (p : Plan) (session : Session) (state : State) :
    p.invokeAll session [state] =
      let r := p.invoke session state
      ⟨r.log, r.session, [r.ending]⟩ := by
  change p.takeTurns session 1 [.due ⟨0, 0⟩ ⟨p.size, 0, p.start, 1, state⟩] = _
  rw [p.followsLoop]
  rfl

end Plan

/-! ### Several runs -/

/-- The result of a step, if the call was the last. -/
def Verdict.result? {α : Type} : Verdict α → Option (StepResult α)
  | .again _ => none
  | .done result => some result

theorem Verdict.result?_settle {α β : Type} (finish : StepResult α → List LogEvent × StepResult β)
    (v : Verdict α) : (v.settle finish).2.result? = v.result?.map fun result => (finish result).2 := by
  cases v <;> rfl

/-- The factor decides how long the wait is, and not whether there is one. -/
theorem RetryPolicy.result?_judge {α : Type} (p : RetryPolicy) (id : String) (attempt : Nat)
    (factor factor' : Binary64) (outcome : Outcome α) :
    (p.judge id attempt factor outcome).result? = (p.judge id attempt factor' outcome).result? := by
  cases outcome with
  | ok value => rfl
  | panicked text => rfl
  | failed error =>
    by_cases hlast : p.budget ≤ attempt ∨ p.retryOn error = false
    · rw [judge_of_last (again?_eq_none_iff.2 hlast), judge_of_last (again?_eq_none_iff.2 hlast)]
    · rw [judge_of_again (if_neg hlast), judge_of_again (if_neg hlast), Verdict.result?,
        Verdict.result?]

theorem Step.result?_call {step : Step} (h : step.action.IsSteady) (session session' : Session)
    (task : Task) :
    (step.call session task).2.result? = (step.call session' task).2.result? := by
  obtain ⟨allowed, taken, id, attempt, state⟩ := task
  obtain ⟨α, call, finish, hcalls, hsteady⟩ := step.exists_calls id state
  rw [hcalls.call_eq, hcalls.call_eq, Verdict.result?_settle, Verdict.result?_settle,
    hsteady h (session.calls id), hsteady h (session'.calls id),
    RetryPolicy.result?_judge _ _ _ _ (session'.factor id (session'.calls id + 1))]

/-- Where a run stands, whenever it goes on from there. -/
def Progress.standing : Progress → Task ⊕ Run.Ending
  | .due _ task => .inl task
  | .ended ending => .inr ending

theorem Progress.filterMap_ending? (endings : List Run.Ending) :
    (endings.map Progress.ended).filterMap Progress.ending? = endings := by
  rw [List.filterMap_map]
  exact List.filterMap_some

/-- If no turn is due, all runs have ended. -/
theorem Due.exists_eq_map_ended {runs : List Progress} (h : first? runs = none) :
    ∃ endings : List Run.Ending, runs = endings.map .ended := by
  induction runs with
  | nil => exact ⟨[], rfl⟩
  | cons first rest ih =>
    cases first with
    | ended ending =>
      obtain ⟨endings, rfl⟩ := ih (Option.map_eq_none_iff.1 h)
      exact ⟨ending :: endings, rfl⟩
    | due moment task =>
      unfold first? at h
      split at h
      · split at h
        · cases h
        · cases h
      · cases h

namespace Plan

variable {p : Plan}

/-- No node of the plan tells one call from another. -/
def IsSteady (p : Plan) : Prop := ∀ id step, p.step? id = some step → step.action.IsSteady

/-- Where the turn of a step leaves a run, by what comes of its call. -/
def standingAfter (p : Plan) (task : Task) : Option (StepResult Advance) → Task ⊕ Run.Ending
  | none => .inl { task with attempt := task.attempt + 1 }
  | some (.ok advance) =>
    match p.goesOn task.node advance.next with
    | some next => .inl ⟨task.allowed - 1, task.taken + 1, next, 1, advance.state⟩
    | none => .inr (.completed advance.state (task.taken + 1))
  | some (.failed error) => .inr (.failed error)
  | some (.panicked text) => .inr (.panicked task.node text)

theorem standing_turn_eq (session : Session) (now : Moment) (order : Nat) {task : Task}
    (hallowed : task.allowed ≠ 0) {step : Step} (hstep : p.step? task.node = some step) :
    (p.turn session now order task).progress.standing =
      p.standingAfter task (step.call session task).2.result? := by
  obtain ⟨allowed, hallowed⟩ := Nat.exists_eq_succ_of_ne_zero hallowed
  simp only [turn, hallowed, hstep]
  cases (step.call session task).2 with
  | again retry => simp only [Verdict.result?, standingAfter, Progress.standing, hallowed]
  | done result =>
    cases result with
    | ok advance =>
      cases hnext : p.goesOn task.node advance.next with
      | some next =>
        simp only [Verdict.result?, standingAfter, hnext, Progress.standing, hallowed,
          Nat.succ_eq_add_one, Nat.add_sub_cancel]
      | none => simp only [Verdict.result?, standingAfter, hnext, Progress.standing]
    | failed error => rfl
    | panicked text => rfl

/-- Where a turn leaves a run does not depend on when it is taken and what was called before. -/
theorem standing_turn (hp : p.IsSteady) (session session' : Session) (now now' : Moment)
    (order order' : Nat) (task : Task) :
    (p.turn session now order task).progress.standing =
      (p.turn session' now' order' task).progress.standing := by
  by_cases hallowed : task.allowed = 0
  · simp only [turn, hallowed, Progress.standing]
  · cases hstep : p.step? task.node with
    | some step =>
      rw [standing_turn_eq _ _ _ hallowed hstep, standing_turn_eq _ _ _ hallowed hstep,
        Step.result?_call (hp _ _ hstep)]
    | none =>
      obtain ⟨allowed, hallowed⟩ := Nat.exists_eq_succ_of_ne_zero hallowed
      simp only [turn, hallowed, hstep, Progress.standing]

theorem endings_congr (hp : p.IsSteady) {run run' : Progress} (h : run.standing = run'.standing)
    (session session' : Session) (order order' : Nat) :
    (p.takeTurns session order [run]).endings = (p.takeTurns session' order' [run']).endings := by
  induction hleft : run.turnsLeft using Nat.strongRecOn
    generalizing run run' session session' order order' with
  | ind left ih =>
    cases run with
    | ended ending =>
      cases run' with
      | ended ending' =>
        cases h
        rw [takeTurns_ended, takeTurns_ended]
      | due now' task' => cases h
    | due now task =>
      cases run' with
      | ended ending' => cases h
      | due now' task' =>
        cases h
        have hless := p.turnsLeft_turn session now order task
        rw [takeTurns_due, takeTurns_due]
        exact ih _ (hleft ▸ hless) (standing_turn hp _ _ _ _ _ _ _) _ _ _ _ rfl

theorem flatMap_set {α β : Type} {f : α → List β} {xs : List α} {i : Nat} {x y : α}
    (hx : xs[i]? = some x) (hf : f y = f x) : (xs.set i y).flatMap f = xs.flatMap f := by
  induction xs generalizing i with
  | nil => cases hx
  | cons first rest ih =>
    cases i with
    | zero =>
      cases hx
      rw [List.set_cons_zero, List.flatMap_cons, List.flatMap_cons, hf]
    | succ i => rw [List.set_cons_succ, List.flatMap_cons, List.flatMap_cons, ih hx]

/-- Among others a run ends as it does by itself. -/
theorem endings_takeTurns (hp : p.IsSteady) (session session' : Session) (order : Nat)
    (runs : List Progress) :
    (p.takeTurns session order runs).endings =
      runs.flatMap fun run => (p.takeTurns session' 0 [run]).endings := by
  fun_induction takeTurns p session order runs with
  | case1 session order runs hnone =>
    obtain ⟨endings, rfl⟩ := Due.exists_eq_map_ended hnone
    have halone : ∀ ending, (p.takeTurns session' 0 [.ended ending]).endings = [ending] :=
      fun ending => by rw [takeTurns_ended]
    simp only [Progress.filterMap_ending?, List.flatMap_map, halone, List.flatMap_singleton']
  | case2 session order runs due hdue turn rest ih =>
    have hturn : (p.takeTurns session' 0 [turn.progress]).endings =
        (p.takeTurns session' 0 [.due due.moment due.task]).endings := by
      rw [takeTurns_due]
      exact endings_congr hp (standing_turn hp _ _ _ _ _ _ _) _ _ _ _
    exact ih.trans (flatMap_set (Due.getElem?_of_first? hdue) hturn)

theorem flatMap_mapIdx {α β γ : Type} {f : Nat → α → β} {g : β → List γ} {h : α → γ}
    (hgf : ∀ i x, g (f i x) = [h x]) (xs : List α) : (xs.mapIdx f).flatMap g = xs.map h := by
  induction xs generalizing f with
  | nil => rfl
  | cons x xs ih =>
    rw [List.mapIdx_cons, List.flatMap_cons, hgf, ih fun i x => hgf (i + 1) x, List.map_cons]
    rfl

/-- Runs that take turns end as each of them does when it is invoked, whatever has been called
    before, if no node tells one call from another. -/
theorem endings_invokeAll (hp : p.IsSteady) (session session' : Session) (states : List State) :
    (p.invokeAll session states).endings =
      states.map fun state => (p.invoke session' state).ending := by
  unfold invokeAll
  rw [endings_takeTurns hp session session']
  apply flatMap_mapIdx
  intro i state
  rw [p.followsLoop]
  rfl

/-- Whatever the nodes do, each run comes to an end. -/
theorem length_endings_takeTurns (p : Plan) (session : Session) (order : Nat)
    (runs : List Progress) : (p.takeTurns session order runs).endings.length = runs.length := by
  fun_induction takeTurns p session order runs with
  | case1 session order runs hnone =>
    obtain ⟨endings, rfl⟩ := Due.exists_eq_map_ended hnone
    rw [Progress.filterMap_ending?, List.length_map]
  | case2 session order runs due hdue turn rest ih => exact ih.trans List.length_set

theorem length_endings_invokeAll (p : Plan) (session : Session) (states : List State) :
    (p.invokeAll session states).endings.length = states.length := by
  unfold invokeAll
  rw [length_endings_takeTurns, List.length_mapIdx]

end Plan

end Flowgraph
