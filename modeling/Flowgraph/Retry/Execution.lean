/-
  Flowgraph/Retry/Execution.lean
  ==============================
  **Calling under a policy** — calls are made until one succeeds or panics, fails with an error
  that the policy does not retry, or was the last the budget allows.  Between two calls there is
  a wait, unless it has no length.
-/
import Flowgraph.Retry.Policy

namespace Flowgraph

/-- A call that failed and was repeated: its number, its error, and the wait before the next
    call.  `scaled` tells a wait that was scaled by a drawn factor. -/
structure Retry where
  attempt : Nat
  error : NodeError
  delay : Duration
  scaled : Bool

def Retry.sleeps (r : Retry) : Bool := !r.delay.isZero

/-- The calls made under a policy: those that were repeated, and what the last came to. -/
structure Execution (α : Type) where
  retries : List Retry
  last : Outcome α

def Execution.calls {α : Type} (e : Execution α) : Nat := e.retries.length + 1

namespace RetryPolicy

/-- The repetition that follows a failed call, given the factor drawn for the wait before it;
    nothing if the call was the last the budget allows or the error is not worth another. -/
def again? (p : RetryPolicy) (attempt : Nat) (factor : Binary64) (error : NodeError) :
    Option Retry :=
  if p.budget ≤ attempt ∨ p.retryOn error = false then none
  else some ⟨attempt, error, p.backoff attempt factor, p.isScaled attempt⟩

theorem lt_budget_of_again?_eq_some {p : RetryPolicy} {attempt : Nat} {factor : Binary64}
    {error : NodeError} {retry : Retry} (h : p.again? attempt factor error = some retry) :
    attempt < p.budget := by
  unfold again? at h
  split at h
  · cases h
  · omega

variable {α : Type}

/-- Makes calls from number `attempt` on.  `call n` is the outcome of call number `n`, `factor n`
    the factor drawn for the wait after it. -/
def executeFrom (p : RetryPolicy) (factor : Nat → Binary64) (call : Nat → Outcome α)
    (attempt : Nat) : Execution α :=
  match call attempt with
  | .failed error =>
    match h : p.again? attempt (factor attempt) error with
    | none => ⟨[], .failed error⟩
    | some retry =>
      let rest := p.executeFrom factor call (attempt + 1)
      ⟨retry :: rest.retries, rest.last⟩
  | outcome => ⟨[], outcome⟩
termination_by p.budget - attempt
decreasing_by
  have := lt_budget_of_again?_eq_some h
  omega

/-- Makes calls, the first being number one. -/
def execute (p : RetryPolicy) (factor : Nat → Binary64) (call : Nat → Outcome α) :
    Execution α :=
  p.executeFrom factor call 1

end RetryPolicy

end Flowgraph
