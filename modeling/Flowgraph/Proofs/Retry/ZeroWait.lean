/-
  Flowgraph/Proofs/Retry/ZeroWait.lean
  ====================================
  **Waits that grow from nothing** — a policy whose initial wait is zero waits for nothing as long
  as the power of its factor is a finite number, and from then on as long as it may
  (`growsFromZero`).  For a factor of two the power is finite up to the 1024th call.

  The wait is a product of binary64 numbers.  Zero times a finite number is zero, but zero times
  infinity is not a number, and a wait that is no finite number is taken to be too long.
-/
import Flowgraph.Proofs.Binary64.Power
import Flowgraph.Proofs.Retry.Loop

namespace Flowgraph

/-! ### Zero in binary64 -/

namespace Binary64

theorem ofNat_zero : ofNat 0 = .finite .zero := by decide +kernel

theorem isFinite_iff {x : Binary64} : x.isFinite = true ↔ ∃ y, x = finite y := by
  cases x <;> simp [isFinite]

theorem zero_mul_finite (y : Finite64) :
    ∃ z : Finite64, z.units = 0 ∧ finite .zero * finite y = finite z := by
  change ∃ z : Finite64, z.units = 0 ∧ round _ (0 * y.units) one = finite z
  rw [Nat.zero_mul]
  exact round_zero _ one_pos

theorem zero_mul_of_not_finite {y : Binary64} (h : y.isFinite = false) :
    finite .zero * y = nan := by
  cases y with
  | finite y => cases h
  | infinite negative => rfl
  | nan => rfl

theorem AtLeast.not_le_zero {y : Binary64} {units : Nat} {z : Finite64} (h : y.AtLeast units)
    (hpos : 0 < units) (hz : z.units = 0) : ¬ y.le (Binary64.finite z) = true := by
  cases h with
  | @finite y sign le =>
    simp only [Binary64.le, Finite64.toInt, sign, hz, Bool.false_eq_true, ↓reduceIte,
      decide_eq_true_eq]
    split <;> omega
  | infinite => exact Bool.false_ne_true

/-- No natural number but zero is rounded to zero. -/
theorem eq_zero_of_ofNat_le {n : Nat} {z : Finite64} (hz : z.units = 0)
    (h : (ofNat n).le (finite z) = true) : n = 0 := by
  by_contra hne
  have hleast : (ofNat n).AtLeast (twoPow 0) := atLeast_ofNat (Nat.pos_of_ne_zero hne)
  exact hleast.not_le_zero (twoPow_pos 0) hz h

theorem pow_zero (x : Binary64) : x.pow 0 = 1 := by
  rw [pow, powStep]
  rfl

theorem isFinite_one : isFinite 1 = true :=
  (atMost_ofNat (k := 0) (Nat.le_refl 1) (by decide)).isFinite

end Binary64

theorem Finite64.nearestNat_of_zero {z : Finite64} (hz : z.units = 0) : z.nearestNat = 0 := by
  have hhalf : Binary64.one / (2 * Binary64.one) = 0 := by decide +kernel
  rw [nearestNat, hz, Nat.mul_zero, Nat.zero_add, hhalf, ite_self]

namespace RetryPolicy

variable {α : Type} {p : RetryPolicy} {attempt k : Nat}

/-! ### The growth of a wait -/

theorem capped_zero {z : Finite64} (hz : z.units = 0) : p.capped (.finite z) = .zero := by
  rw [capped, Finite64.nearestNat_of_zero hz]
  split
  · next hle =>
    rw [← Duration.isZero_iff, Duration.isZero, Binary64.eq_zero_of_ofNat_le hz hle]
    rfl
  · rfl

theorem delayFor_of_initial_zero (h : p.initialInterval = .zero) (attempt : Nat) :
    p.delayFor attempt = if (p.growth attempt).isFinite then .zero else p.maxInterval := by
  have hnanos : p.initialInterval.nanos = 0 := by
    rw [h]
    rfl
  rw [delayFor, hnanos, Binary64.ofNat_zero]
  by_cases hgrowth : (p.growth attempt).isFinite = true
  · obtain ⟨x, hx⟩ := Binary64.isFinite_iff.1 hgrowth
    obtain ⟨z, hz, hzero⟩ := Binary64.zero_mul_finite x
    rw [if_pos hgrowth, hx, hzero]
    exact capped_zero hz
  · rw [if_neg hgrowth, Binary64.zero_mul_of_not_finite (by simpa using hgrowth)]
    rfl

theorem backoff_of_delayFor_zero (h : p.delayFor attempt = .zero) (factor : Binary64) :
    p.backoff attempt factor = .zero := by
  have hscaled : p.isScaled attempt = false := by
    rw [isScaled, h, Duration.isZero_iff.2 rfl, Bool.not_true, Bool.and_false]
  rw [backoff, hscaled, if_neg Bool.false_ne_true, h]

theorem growth_isFinite (hfactor : p.backoffFactor.le (.ofNat (2 ^ k)) = true)
    (hattempt : k * (attempt - 1) < 1024) : (p.growth attempt).isFinite = true := by
  have hexponent : k * min (attempt - 1) 0x7FFFFFFF < 1024 :=
    Nat.lt_of_le_of_lt (Nat.mul_le_mul_left k (Nat.min_le_left _ _)) hattempt
  by_cases hk : k < 1024
  · have hmost := (Binary64.atMost_ofNat (Nat.le_refl _) hk).atLeastZero hfactor
    exact (hmost.pow hexponent).isFinite
  · -- the power of two is infinite itself, but no factor has been multiplied by yet
    have hfirst : min (attempt - 1) 0x7FFFFFFF = 0 := by
      by_contra hne
      have := Nat.le_mul_of_pos_right k (Nat.pos_of_ne_zero hne)
      omega
    rw [growth, hfirst, Binary64.pow_zero]
    exact Binary64.isFinite_one

theorem growth_eq_infinite (hfactor : (Binary64.ofNat (2 ^ k)).le p.backoffFactor = true)
    (hattempt : 1024 ≤ k * (attempt - 1)) : p.growth attempt = .infinite false := by
  have hk : 0 < k := Nat.pos_of_mul_pos_right (Nat.lt_of_lt_of_le (by decide) hattempt)
  have hexponent : 1024 ≤ k * min (attempt - 1) 0x7FFFFFFF := by
    rcases Nat.le_total (attempt - 1) 0x7FFFFFFF with hle | hle
    · rw [Nat.min_eq_left hle]
      exact hattempt
    · rw [Nat.min_eq_right hle]
      exact Nat.le_trans (by decide) (Nat.le_mul_of_pos_left 0x7FFFFFFF hk)
  have hleast := (Binary64.atLeast_ofNat (Nat.le_refl (2 ^ k))).atLeastZero
    (Binary64.twoPow_pos k) hfactor
  refine (hleast.pow _).eq_infinite (Nat.le_of_not_lt fun hlt => ?_)
  have := Binary64.twoPow_lt_limit_iff.1 hlt
  omega

/-! ### Waits between calls -/

/-- Every wait follows a call that is repeated, and is not zero. -/
theorem backoff_of_sleep_mem {id : String} {factor : Nat → Binary64} {call : Nat → Outcome α}
    {delay : Duration} (h : LoopAct.sleep delay ∈ (p.execute factor call).acts id p 1) :
    ∃ attempt < p.budget, delay = p.backoff attempt (factor attempt) ∧ delay ≠ .zero := by
  simp only [Execution.acts, List.mem_append, List.mem_flatMap, List.mem_singleton, reduceCtorEq,
    or_false] at h
  obtain ⟨retry, hretry, hact⟩ := h
  obtain ⟨-, hagain⟩ := again?_of_mem_retries hretry
  have hdelay : retry.delay = p.backoff retry.attempt (factor retry.attempt) :=
    congrArg Retry.delay (eq_of_again?_eq_some hagain)
  by_cases hsleeps : retry.sleeps = true
  · rw [Retry.acts, if_pos hsleeps] at hact
    have hsleep : delay = retry.delay := by simpa using hact
    refine ⟨_, lt_budget_of_again?_eq_some hagain, hsleep.trans hdelay, ?_⟩
    rw [Retry.sleeps, Bool.not_eq_true', ← Bool.not_eq_true, Duration.isZero_iff] at hsleeps
    rwa [hsleep]
  · rw [Retry.acts, if_neg hsleeps] at hact
    simp at hact

theorem growth_of_sleep_mem (h : p.initialInterval = .zero) {id : String}
    {factor : Nat → Binary64} {call : Nat → Outcome α} {delay : Duration}
    (hsleep : LoopAct.sleep delay ∈ (p.execute factor call).acts id p 1) :
    ∃ attempt < p.budget, (p.growth attempt).isFinite = false ∧ p.maxInterval ≠ .zero ∧
      delay = p.backoff attempt (factor attempt) := by
  obtain ⟨attempt, hbudget, rfl, hne⟩ := backoff_of_sleep_mem hsleep
  have hdelay : p.delayFor attempt ≠ .zero :=
    fun hzero => hne (backoff_of_delayFor_zero hzero _)
  rw [delayFor_of_initial_zero h] at hdelay
  by_cases hgrowth : (p.growth attempt).isFinite = true
  · exact absurd (if_pos hgrowth) hdelay
  · rw [if_neg hgrowth] at hdelay
    exact ⟨attempt, hbudget, by simpa using hgrowth, hdelay, rfl⟩

/-- What the waits of a policy come to that starts from no wait. -/
structure GrowsFromZero (p : RetryPolicy) : Prop where
  /-- There is no wait as long as the growth is finite, and then the longest. -/
  delayFor_eq : ∀ attempt, p.delayFor attempt =
    if (p.growth attempt).isFinite then .zero else p.maxInterval
  /-- A wait of zero is not scaled. -/
  backoff_eq : ∀ attempt factor, (p.growth attempt).isFinite = true →
    p.backoff attempt factor = .zero
  /-- A factor up to a power of two gives no wait before that comes to the 1024th. -/
  before : ∀ k attempt, p.backoffFactor.le (.ofNat (2 ^ k)) = true → k * (attempt - 1) < 1024 →
    p.delayFor attempt = .zero ∧ ∀ factor, p.backoff attempt factor = .zero
  /-- A factor from a power of two on gives the longest wait once that comes to the 1024th. -/
  after : ∀ k attempt, (Binary64.ofNat (2 ^ k)).le p.backoffFactor = true →
    1024 ≤ k * (attempt - 1) → p.delayFor attempt = p.maxInterval
  /-- What is slept for between calls is a wait whose growth is no longer finite. -/
  sleeps : ∀ {α : Type} (id : String) (factor : Nat → Binary64) (call : Nat → Outcome α) (delay),
    LoopAct.sleep delay ∈ (p.execute factor call).acts id p 1 →
    ∃ attempt < p.budget, (p.growth attempt).isFinite = false ∧ p.maxInterval ≠ .zero ∧
      delay = p.backoff attempt (factor attempt)
  /-- With too few calls for that, nothing is slept for. -/
  awake : ∀ k, p.backoffFactor.le (.ofNat (2 ^ k)) = true → k * (p.budget - 2) < 1024 →
    ∀ {α : Type} (id : String) (factor : Nat → Binary64) (call : Nat → Outcome α) (delay),
      LoopAct.sleep delay ∉ (p.execute factor call).acts id p 1

theorem growsFromZero (h : p.initialInterval = .zero) : p.GrowsFromZero where
  delayFor_eq := delayFor_of_initial_zero h
  backoff_eq attempt factor hgrowth := by
    refine backoff_of_delayFor_zero ?_ factor
    rw [delayFor_of_initial_zero h, if_pos hgrowth]
  before k attempt hfactor hattempt := by
    have hdelay : p.delayFor attempt = .zero := by
      rw [delayFor_of_initial_zero h, if_pos (growth_isFinite hfactor hattempt)]
    exact ⟨hdelay, backoff_of_delayFor_zero hdelay⟩
  after k attempt hfactor hattempt := by
    rw [delayFor_of_initial_zero h, growth_eq_infinite hfactor hattempt]
    rfl
  sleeps id factor call delay hsleep := growth_of_sleep_mem h hsleep
  awake k hfactor hbudget α id factor call delay hsleep := by
    obtain ⟨attempt, hlt, hgrowth, -⟩ := growth_of_sleep_mem h hsleep
    have hle : k * (attempt - 1) ≤ k * (p.budget - 2) := Nat.mul_le_mul_left k (by omega)
    rw [growth_isFinite hfactor (Nat.lt_of_le_of_lt hle hbudget)] at hgrowth
    cases hgrowth

/-- The default policy without the initial wait and without scaling. -/
def unhurried : RetryPolicy := { initialInterval := .zero, jitter := false }

theorem two_le_unhurried : (Binary64.ofNat (2 ^ 1)).le unhurried.backoffFactor = true := by
  decide +kernel

theorem growsFromZero_unhurried :
    unhurried.initialInterval = .zero ∧ unhurried.delayFor 1024 = .zero ∧
      unhurried.delayFor 1025 = Duration.ofMillis 128000 := by
  have h := growsFromZero (p := unhurried) rfl
  have hle : unhurried.backoffFactor.le (.ofNat (2 ^ 1)) = true := by decide +kernel
  exact ⟨rfl, (h.before 1 1024 hle (by decide)).1, h.after 1 1025 two_le_unhurried (by decide)⟩

/-- No wait and a finite factor come to the longest wait after call 1025. -/
theorem unhurried_waits :
    unhurried.initialInterval = .zero ∧ unhurried.backoffFactor.isFinite = true ∧
      unhurried.delayFor 1025 ≠ .zero ∧ ∀ factor, unhurried.backoff 1025 factor ≠ .zero := by
  have hgrowth : unhurried.growth 1025 = .infinite false :=
    growth_eq_infinite two_le_unhurried (by decide)
  have hdelay : unhurried.delayFor 1025 = Duration.ofMillis 128000 := by
    rw [delayFor_of_initial_zero rfl, hgrowth]
    rfl
  have hlong : Duration.ofMillis 128000 ≠ .zero := by decide
  refine ⟨rfl, by decide +kernel, ?_, fun factor => ?_⟩
  · rw [hdelay]
    exact hlong
  · have hscaled : unhurried.isScaled 1025 = false := rfl
    rw [backoff, hscaled, if_neg Bool.false_ne_true, hdelay]
    exact hlong

end RetryPolicy

end Flowgraph
