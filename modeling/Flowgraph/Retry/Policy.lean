/-
  Flowgraph/Retry/Policy.lean
  ===========================
  **Retry policies** — how often a node may be called, which errors are worth another call, and
  how long to wait before it.  The wait grows by a factor with every call up to a longest wait,
  and may be scaled by a factor drawn at random.
-/
import Flowgraph.Binary64.Decimal
import Flowgraph.Duration
import Flowgraph.Failure

namespace Flowgraph

/-- How the calls of a node are repeated. -/
structure RetryPolicy where
  /-- The number of calls, the first one included.  Nought counts as one. -/
  maxAttempts : UInt32 := 3
  /-- The wait before the second call. -/
  initialInterval : Duration := Duration.ofMillis 500
  /-- What the wait is multiplied by after each call. -/
  backoffFactor : Binary64 := 2
  /-- The longest wait, before it is scaled. -/
  maxInterval : Duration := Duration.ofMillis 128000
  /-- Whether each wait is scaled by a factor drawn between a half and one and a half. -/
  jitter : Bool := true
  /-- Which errors are worth another call. -/
  retryOn : NodeError → Bool := NodeError.isRateLimited

instance : Inhabited RetryPolicy := ⟨{}⟩

namespace RetryPolicy

def noRetry : RetryPolicy := { maxAttempts := 1 }

/-- The number of calls that may be made: one at least. -/
def budget (p : RetryPolicy) : Nat := max p.maxAttempts.toNat 1

theorem budget_pos (p : RetryPolicy) : 0 < p.budget :=
  Nat.lt_of_lt_of_le Nat.one_pos (Nat.le_max_right _ _)

/-- A count of calls in 32 bits can reach the budget. -/
theorem budget_lt (p : RetryPolicy) : p.budget < UInt32.size := by
  have := p.maxAttempts.toNat_lt
  unfold budget UInt32.size
  omega

/-- What the initial wait is multiplied by after the given failed call, the first being number
    one: a power of the factor. -/
def growth (p : RetryPolicy) (attempt : Nat) : Binary64 :=
  p.backoffFactor.atLeastZero.pow (min (attempt - 1) 0x7FFFFFFF)

/-- A number of nanoseconds as a wait: the longest wait if that is less or the number is not
    finite. -/
def capped (p : RetryPolicy) : Binary64 → Duration
  | .finite x =>
    if (Binary64.ofNat p.maxInterval.nanos).le (.finite x) then p.maxInterval
    else Duration.ofNanos (min x.nearestNat (UInt64.size - 1))
  | _ => p.maxInterval

/-- The wait after the given failed call before it is scaled: the initial wait times the growth,
    and the longest wait if that is less or the product is no finite number. -/
def delayFor (p : RetryPolicy) (attempt : Nat) : Duration :=
  p.capped (Binary64.ofNat p.initialInterval.nanos * p.growth attempt)

def isScaled (p : RetryPolicy) (attempt : Nat) : Bool := p.jitter && !(p.delayFor attempt).isZero

/-- The wait after the given failed call, scaled by the given factor if it is to be scaled. -/
def backoff (p : RetryPolicy) (attempt : Nat) (factor : Binary64) : Duration :=
  if p.isScaled attempt then
    (Duration.ofSeconds? ((p.delayFor attempt).toSeconds * factor)).getD Duration.longest
  else p.delayFor attempt

/-- The policy in words.  Which errors it retries cannot be shown. -/
def describe (p : RetryPolicy) : String :=
  "RetryPolicy \x7b max_attempts: " ++ toString p.maxAttempts ++
    ", initial_interval: " ++ p.initialInterval.describe ++
    ", backoff_factor: " ++ p.backoffFactor.describe ++
    ", max_interval: " ++ p.maxInterval.describe ++
    ", jitter: " ++ (if p.jitter then "true" else "false") ++ ", .. \x7d"

end RetryPolicy

end Flowgraph
