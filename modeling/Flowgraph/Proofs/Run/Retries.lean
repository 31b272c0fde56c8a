/-
  Flowgraph/Proofs/Run/Retries.lean
  =================================
  **Retries in the log** — whatever retry a run logs, a step of its plan was performed on a state
  on which a call of it fails with that error, and its policy retries the error
  (`Plan.fails_of_retrying`).
-/
import Flowgraph.Proofs.Run.Steps

namespace Flowgraph

variable {modes : Modes} {session : Session} {id node : String} {state : State} {retry : Retry}
variable {budget : Nat}

/-- A call of the action on a state fails with an error. -/
def Action.Fails (action : Action) (s : State) (error : NodeError) : Prop :=
  match action with
  | work run _ => ∃ i, run i s = .failed error
  | branch choose _ incoming => ∃ i, choose i s incoming = .failed error

/-! ### One step -/

theorem Execution.exists_call_of_retrying {α : Type} {policy policy' : RetryPolicy}
    {call : Nat → Outcome α}
    (h : LogEvent.retrying node retry budget ∈ (session.execute id policy call).log id policy') :
    ∃ i, call i = .failed retry.error ∧ policy.retryOn retry.error = true := by
  obtain ⟨retry', hmem, heq⟩ := List.mem_map.1 h
  cases heq
  obtain ⟨i, hcall, hretry⟩ := RetryPolicy.exists_call_of_mem_retries hmem
  exact ⟨_, hcall, hretry⟩

theorem retrying_notMem_resolve (id : String) (routes : RouteTable)
    (result : StepResult String) :
    LogEvent.retrying node retry budget ∉ (resolve id routes result).1 := by
  unfold resolve
  split
  · split <;> simp
  · simp
  · simp

theorem Step.fails_of_retrying {step : Step}
    (h : LogEvent.retrying node retry budget ∈ (step.perform modes session id state).1) :
    step.action.Fails state retry.error ∧ step.policy.retryOn retry.error = true := by
  unfold perform at h
  split at h
  · next run next haction =>
    obtain ⟨i, hcall, hretry⟩ := Execution.exists_call_of_retrying h
    rw [haction]
    exact ⟨⟨i, hcall⟩, hretry⟩
  · next choose routes incoming haction =>
    rcases List.mem_append.1 h with h | h
    · obtain ⟨i, hcall, hretry⟩ := Execution.exists_call_of_retrying h
      rw [haction]
      exact ⟨⟨i, hcall⟩, hretry⟩
    · exact absurd h (retrying_notMem_resolve _ _ _)

/-! ### All steps -/

namespace Plan

variable {p : Plan}

theorem fails_of_retrying_stepLog {step : Step}
    (h : LogEvent.retrying node retry budget ∈ stepLog modes session id state step) :
    step.action.Fails state retry.error ∧ step.policy.retryOn retry.error = true := by
  rcases List.mem_cons.1 h with heq | h
  · cases heq
  · exact Step.fails_of_retrying h

theorem fails_of_retrying_runFrom {allowed taken : Nat}
    (h : LogEvent.retrying node retry budget ∈
      (p.runFrom modes allowed taken session id state).log) :
    ∃ id step s, p.step? id = some step ∧ step.action.Fails s retry.error ∧
      step.policy.retryOn retry.error = true := by
  induction allowed generalizing taken session id state with
  | zero => cases h
  | succ allowed ih =>
    cases hstep : p.step? id with
    | none =>
      rw [runFrom, hstep] at h
      cases h
    | some step =>
      have hlog : LogEvent.retrying node retry budget ∈ stepLog modes session id state step →
          ∃ id step s, p.step? id = some step ∧ step.action.Fails s retry.error ∧
            step.policy.retryOn retry.error = true :=
        fun hmem => ⟨id, step, state, hstep, fails_of_retrying_stepLog hmem⟩
      rcases hperform : (step.perform modes session id state).2 with ⟨session', result⟩
      cases result with
      | failed error =>
        rw [runFrom_failed hstep hperform] at h
        exact hlog h
      | panicked text =>
        rw [runFrom_panicked hstep hperform] at h
        exact hlog h
      | ok advance =>
        cases hnext : p.goesOn id advance.next with
        | none =>
          rw [runFrom_completed hstep hperform hnext] at h
          exact hlog (by simpa using h)
        | some next =>
          rw [runFrom_goesOn hstep hperform hnext] at h
          rcases List.mem_append.1 h with h | h
          · exact hlog (by simpa using h)
          · exact ih h

theorem fails_of_retrying {s : State}
    (h : LogEvent.retrying node retry budget ∈ (p.invoke session s).log) :
    ∃ id step s, p.step? id = some step ∧ step.action.Fails s retry.error ∧
      step.policy.retryOn retry.error = true := by
  have hclosing : ∀ ending, LogEvent.retrying node retry budget ∉ closingLog ending := by
    intro ending
    cases ending <;> simp [closingLog]
  rcases List.mem_cons.1 h with heq | h
  · cases heq
  · rcases List.mem_append.1 h with h | h
    · exact fails_of_retrying_runFrom h
    · exact absurd h (hclosing _)

end Plan

end Flowgraph
