/-
  Flowgraph/Retry/Loop.lean
  =========================
  **The loop of calls, act by act** — `RetryPolicy.execute` lists what is repeated and leaves it
  there.  `RetryPolicy.loop?` does what is done in the order in which it is done, counts the calls
  in 32 bits, one more before each, and gives nothing if the count overflows.
-/
import Flowgraph.Log

namespace Flowgraph

/-! ### Acts -/

/-- What is done in a loop of calls. -/
inductive LoopAct
  | call (attempt : Nat)
  | log (event : LogEvent)
  | sleep (delay : Duration)

/-- A call that is repeated, and what is done before the next. -/
def Retry.acts (r : Retry) (id : String) (p : RetryPolicy) : List LoopAct :=
  [.call r.attempt, .log (.retrying id r p.budget)] ++ if r.sleeps then [.sleep r.delay] else []

/-- What is done from a call on to the last. -/
def Execution.acts {α : Type} (e : Execution α) (id : String) (p : RetryPolicy) (attempt : Nat) :
    List LoopAct :=
  e.retries.flatMap (·.acts id p) ++ [.call (attempt + e.retries.length)]

theorem Execution.acts_cons {α : Type} (retry : Retry) (e : Execution α) (id : String)
    (p : RetryPolicy) (attempt : Nat) :
    Execution.acts ⟨retry :: e.retries, e.last⟩ id p attempt =
      retry.acts id p ++ e.acts id p (attempt + 1) := by
  have hcalls : attempt + (e.retries.length + 1) = attempt + 1 + e.retries.length := by omega
  simp only [acts, List.flatMap_cons, List.length_cons, List.append_assoc, hcalls]

/-! ### The loop -/

/-- What a loop of calls leaves: what was done, what the last call came to, and the count. -/
structure LoopEnd (α : Type) where
  acts : List LoopAct
  last : Outcome α
  attempts : UInt32

def LoopEnd.after {α : Type} (acts : List LoopAct) (e : LoopEnd α) : LoopEnd α :=
  { e with acts := acts ++ e.acts }

namespace RetryPolicy

theorem toNat_add_one {made : UInt32} (hroom : made.toNat + 1 < UInt32.size) :
    (made + 1).toNat = made.toNat + 1 := by
  rw [UInt32.toNat_add]
  exact Nat.mod_eq_of_lt hroom

/-- The loop of calls after `made` of them. -/
def loop? {α : Type} (p : RetryPolicy) (id : String) (factor : Nat → Binary64)
    (call : Nat → Outcome α) (made : UInt32) : Option (LoopEnd α) :=
  if _hroom : made.toNat + 1 < UInt32.size then
    let attempt := made + 1
    match call attempt.toNat with
    | .failed error =>
      if max p.maxAttempts 1 ≤ attempt ∨ p.retryOn error = false then
        some ⟨[.call attempt.toNat], .failed error, attempt⟩
      else
        let delay := p.backoff attempt.toNat (factor attempt.toNat)
        let retry : Retry := ⟨attempt.toNat, error, delay, p.isScaled attempt.toNat⟩
        let event := LogEvent.retrying id retry (max p.maxAttempts 1).toNat
        let wait := if delay.isZero then [] else [LoopAct.sleep delay]
        (p.loop? id factor call attempt).map (·.after ([.call attempt.toNat, .log event] ++ wait))
    | outcome => some ⟨[.call attempt.toNat], outcome, attempt⟩
  else none
termination_by UInt32.size - made.toNat
decreasing_by
  have := toNat_add_one _hroom
  omega

end RetryPolicy

end Flowgraph
