/-
  Flowgraph/Retry/Override.lean
  =============================
  **Retry settings of one node** — those fields of a policy that a node sets for itself; the
  others keep the value of the policy they are applied to.
-/
import Flowgraph.Json.Decoder
import Flowgraph.Retry.Policy

namespace Flowgraph

/-- The fields of a retry policy that a node sets. -/
structure RetryOverride where
  maxAttempts : Option UInt32 := none
  initialIntervalMs : Option UInt64 := none
  backoffFactor : Option Binary64 := none
  maxIntervalMs : Option UInt64 := none
  jitter : Option Bool := none
deriving DecidableEq, Inhabited

namespace RetryOverride

def apply (o : RetryOverride) (p : RetryPolicy) : RetryPolicy where
  maxAttempts := o.maxAttempts.getD p.maxAttempts
  initialInterval := (o.initialIntervalMs.map Duration.ofMillis).getD p.initialInterval
  backoffFactor := o.backoffFactor.getD p.backoffFactor
  maxInterval := (o.maxIntervalMs.map Duration.ofMillis).getD p.maxInterval
  jitter := o.jitter.getD p.jitter
  retryOn := p.retryOn

/-! ### As JSON -/

/-- The fields that are set, by name. -/
def entries (o : RetryOverride) : List (String × Json) :=
  (o.maxAttempts.map fun n => ("max_attempts", Json.int n.toNat)).toList ++
  (o.initialIntervalMs.map fun n => ("initial_interval_ms", Json.int n.toNat)).toList ++
  (o.backoffFactor.map fun x => ("backoff_factor", Json.ofBinary64 x)).toList ++
  (o.maxIntervalMs.map fun n => ("max_interval_ms", Json.int n.toNat)).toList ++
  (o.jitter.map fun b => ("jitter", Json.bool b)).toList

/-- The fields met so far; one that is `null` is met and not set. -/
structure Draft where
  maxAttempts : Option (Option UInt32) := none
  initialIntervalMs : Option (Option UInt64) := none
  backoffFactor : Option (Option Finite64) := none
  maxIntervalMs : Option (Option UInt64) := none
  jitter : Option (Option Bool) := none

open Json (Decoder Slot)

/-- The fields of the settings; no other is taken. -/
def record : Json.Record Draft RetryOverride where
  name := "RetryOverride"
  slots :=
    [.of "max_attempts" false (Decoder.optional .uint32) (·.maxAttempts)
        fun x draft => { draft with maxAttempts := some x },
     .of "initial_interval_ms" false (Decoder.optional .uint64) (·.initialIntervalMs)
        fun x draft => { draft with initialIntervalMs := some x },
     .of "backoff_factor" false (Decoder.optional .float) (·.backoffFactor)
        fun x draft => { draft with backoffFactor := some x },
     .of "max_interval_ms" false (Decoder.optional .uint64) (·.maxIntervalMs)
        fun x draft => { draft with maxIntervalMs := some x },
     .of "jitter" false (Decoder.optional .bool) (·.jitter)
        fun x draft => { draft with jitter := some x }]
  closed := true
  empty := {}
  finish draft := .ok
    { maxAttempts := draft.maxAttempts.join
      initialIntervalMs := draft.initialIntervalMs.join
      backoffFactor := draft.backoffFactor.join.map .finite
      maxIntervalMs := draft.maxIntervalMs.join
      jitter := draft.jitter.join }

def decoder : Decoder RetryOverride := record.decode

end RetryOverride

end Flowgraph
