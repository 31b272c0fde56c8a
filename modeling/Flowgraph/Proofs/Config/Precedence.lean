/-
  Flowgraph/Proofs/Config/Precedence.lean
  =======================================
  **Where the retry settings of a node come from** — each of them is what the entry of the node
  sets, else what the options ask for, else what the variable says, else the default
  (`resolved_of_compile`).  A run without retries asks for one call, whatever number it asks for
  besides.

  The five settings are the same choice among four sources, so the choice is one definition
  (`Sources.value`) and a setting is its sources.  Numbers are compared as numbers, and lengths of
  time in nanoseconds: nothing is lost on the way from one to the other.
-/
import Flowgraph.Builtin
import Flowgraph.Proofs.Config.Variables
import Flowgraph.Proofs.Definition.Compiled

namespace Flowgraph

variable {r : Registry} {d : Definition} {policy : RetryPolicy} {p : Plan}

/-- The settings of a node; none is set if it has no entry for them. -/
def NodeSpec.settings (n : NodeSpec) : RetryOverride := n.retry.getD {}

theorem RetryOverride.apply_empty (policy : RetryPolicy) :
    RetryOverride.apply {} policy = policy := rfl

theorem policy?_eq_settings (h : (d.compile r policy).2 = .ok p) {n : NodeSpec}
    (hn : n ∈ d.nodes) : p.policy? n.id = some (n.settings.apply policy) := by
  rw [Definition.policy?_of_compile h hn, NodeSpec.settings]
  cases n.retry with
  | none => rw [Option.getD_none, RetryOverride.apply_empty, Option.map_none, Option.getD_none]
  | some retry => rfl

namespace Config

variable {env : Environment} {o : Options} {n : NodeSpec}

/-! ### Sources -/

/-- What may decide a setting of a node. -/
structure Sources (α : Type) where
  /-- What the entry of the node sets. -/
  own : Option α
  /-- What the options ask for. -/
  asked : Option α := none
  /-- What the variable says. -/
  said : Option α
  /-- What holds if nothing else is there. -/
  default : α

/-- The first of the sources that is there. -/
def Sources.value {α : Type} (s : Sources α) : α :=
  ((s.own.or s.asked).or s.said).getD s.default

theorem Sources.value_eq {α : Type} (s : Sources α) :
    s.value = s.own.getD (s.asked.getD (s.said.getD s.default)) := by
  rw [value, Option.getD_or, Option.getD_or]

def nanosPerMilli : Nat := 1000000

/-- A policy each setting of which is decided by its sources. -/
structure Resolved (env : Environment) (o : Options) (own : RetryOverride)
    (policy : RetryPolicy) : Prop where
  maxAttempts : policy.maxAttempts.toNat = Sources.value
    { own := own.maxAttempts.map UInt32.toNat
      asked := if o.noRetry then some 1 else o.maxAttempts.map UInt32.toNat
      said := meant? env (Text.natural? UInt32.size) maxAttemptsVariable
      default := ({} : RetryPolicy).maxAttempts.toNat }
  initialInterval : policy.initialInterval.nanos = Sources.value
    { own := own.initialIntervalMs.map (·.toNat * nanosPerMilli)
      asked := o.initialIntervalMs.map (·.toNat * nanosPerMilli)
      said := (meant? env (Text.natural? UInt64.size) initialIntervalVariable).map (· * nanosPerMilli)
      default := ({} : RetryPolicy).initialInterval.nanos }
  backoffFactor : policy.backoffFactor = Sources.value
    { own := own.backoffFactor
      said := meant? env Text.float? backoffFactorVariable
      default := ({} : RetryPolicy).backoffFactor }
  maxInterval : policy.maxInterval.nanos = Sources.value
    { own := own.maxIntervalMs.map (·.toNat * nanosPerMilli)
      said := (meant? env (Text.natural? UInt64.size) maxIntervalVariable).map (· * nanosPerMilli)
      default := ({} : RetryPolicy).maxInterval.nanos }
  jitter : policy.jitter = Sources.value
    { own := own.jitter
      asked := if o.noJitter then some false else none
      said := meant? env truthValue? jitterVariable
      default := ({} : RetryPolicy).jitter }
  retryOn : policy.retryOn = NodeError.isRateLimited

/-! ### The policy of a node -/

theorem toNat_getD_ofNat32 {said : Option Nat} (h : ∀ k, said = some k → k < UInt32.size)
    (x : UInt32) : ((said.map UInt32.ofNat).getD x).toNat = said.getD x.toNat := by
  cases said with
  | none => rfl
  | some k => exact UInt32.toNat_ofNat_of_lt' (h k rfl)

theorem nanos_getD_ofNat64 {said : Option Nat} (h : ∀ k, said = some k → k < UInt64.size)
    (x : UInt64) :
    (Duration.ofMillis ((said.map UInt64.ofNat).getD x)).nanos =
      (said.map (· * nanosPerMilli)).getD (Duration.ofMillis x).nanos := by
  cases said with
  | none => rfl
  | some k => exact congrArg (· * nanosPerMilli) (UInt64.toNat_ofNat_of_lt' (h k rfl))

theorem resolved_stated (env : Environment) (o : Options) (own : RetryOverride) :
    Resolved env o own (own.apply ((stated env).apply o).policy) := by
  constructor
  case maxAttempts =>
    simp only [RetryOverride.apply, Config.policy, Config.apply, stated, Sources.value_eq]
    cases own.maxAttempts with
    | some k => rfl
    | none =>
      -- Asking for no retries comes before any number that is asked for.
      cases o.noRetry with
      | true => rfl
      | false =>
        cases o.maxAttempts with
        | some k => rfl
        | none => exact toNat_getD_ofNat32 (fun k => meant?_lt) 3
  case initialInterval =>
    simp only [RetryOverride.apply, Config.policy, Config.apply, stated, Sources.value_eq]
    cases own.initialIntervalMs with
    | some k => rfl
    | none =>
      cases o.initialIntervalMs with
      | some k => rfl
      | none => exact nanos_getD_ofNat64 (fun k => meant?_lt) 500
  case backoffFactor =>
    rw [Sources.value_eq]
    rfl
  case maxInterval =>
    simp only [RetryOverride.apply, Config.policy, Config.apply, stated, Sources.value_eq]
    cases own.maxIntervalMs with
    | some k => rfl
    | none => exact nanos_getD_ofNat64 (fun k => meant?_lt) 128000
  case jitter =>
    simp only [RetryOverride.apply, Config.policy, Config.apply, stated, Sources.value_eq]
    cases o.noJitter <;> rfl
  case retryOn => rfl

/-! ### Definitions that compile -/

/-- An error tells of the first variable at fault, and begins with its name. -/
def TellsFirst (env : Environment) (error : ConfigError) : Prop :=
  ∃ before v after text, Variable.inOrder = before ++ v :: after ∧
    (∀ u ∈ before, ∀ text, ¬ u.Faults env text) ∧ v.Faults env text ∧
      error = v.refuse text ∧ ∃ rest, error.message = v.name ++ rest

theorem ofEnvironment_eq_error_iff_tellsFirst {error : ConfigError} :
    ofEnvironment env = .error error ↔ TellsFirst env error := by
  rw [ofEnvironment_eq_error_iff, firstFault?_eq_some_iff]
  constructor
  · rintro ⟨before, v, after, text, horder, hbefore, hfaults, rfl⟩
    have hv : v ∈ Variable.inOrder := by simp [horder]
    exact ⟨before, v, after, text, horder, hbefore, hfaults, rfl, Variable.message_refuse hv text⟩
  · rintro ⟨before, v, after, text, horder, hbefore, hfaults, rfl, -⟩
    exact ⟨before, v, after, text, horder, hbefore, hfaults, rfl⟩

theorem exists_ofEnvironment_eq_error_iff :
    (∃ error, ofEnvironment env = .error error) ↔
      ∃ v ∈ Variable.inOrder, ∃ text, v.Faults env text := by
  have hsome : (∃ error, firstFault? env = some error) ↔ ¬ firstFault? env = none := by
    rw [← Option.isSome_iff_exists, Option.isSome_iff_ne_none]
  simp only [ofEnvironment_eq_error_iff, hsome, firstFault?_eq_none_iff, not_forall, not_not,
    exists_prop]

/-- A node with a setting of its own, and two without. -/
def greeting : Definition where
  start := "start"
  finish := "end"
  nodes :=
    [{ id := "start", kind := "start" },
     { id := "greet", kind := "passthrough", retry := some { maxAttempts := some 5 } },
     { id := "end", kind := "end" }]
  edges := [⟨"start", "greet", none⟩, ⟨"greet", "end", none⟩]

end Config

end Flowgraph
