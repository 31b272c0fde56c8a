/-
  Flowgraph/Proofs/Retry/LongestWait.lean
  =======================================
  **The longest wait is never passed** — no wait is longer than the longest of its policy, to the
  nanosecond (`keepsToLongest`).

  The wait is compared with the longest in binary64, where the longest may have been rounded up,
  and is then rounded itself, to a whole number.  Neither lets a longer wait through: rounding is
  monotone, and leaves binary64 numbers and whole numbers as they are.  How the growth of a wait
  is computed does not matter for this.
-/
import Flowgraph.Proofs.Binary64.Whole
import Flowgraph.Retry.Policy

namespace Flowgraph.RetryPolicy

open Binary64 (whole)

variable {p : RetryPolicy}

theorem capped_le (p : RetryPolicy) (product : Binary64) :
    (p.capped product).nanos ≤ p.maxInterval.nanos := by
  cases product with
  | nan => exact Nat.le_refl _
  | infinite negative => exact Nat.le_refl _
  | finite x =>
    rw [capped]
    split
    · exact Nat.le_refl _
    · next hbelow =>
      have hlt : x.toInt < whole p.maxInterval.nanos := Binary64.lt_of_not_ofNat_le hbelow
      rw [Duration.nanos_ofNanos]
      calc min (min x.nearestNat (UInt64.size - 1)) Duration.longest.nanos
          ≤ min x.nearestNat (UInt64.size - 1) := Nat.min_le_left _ _
        _ ≤ x.nearestNat := Nat.min_le_left _ _
        _ ≤ p.maxInterval.nanos := Finite64.nearestNat_le (Int.le_of_lt hlt)

theorem capped_of_le {x : Finite64} (h : whole p.maxInterval.nanos ≤ x.toInt) :
    p.capped (.finite x) = p.maxInterval := by
  rw [capped]
  exact if_pos (Binary64.ofNat_le_of_le h)

/-- A longest wait of 53 digits is not rounded, and the wait is the lesser of the two. -/
theorem nanos_capped (h : p.maxInterval.nanos ≤ 2 ^ 53) (x : Finite64) :
    (p.capped (.finite x)).nanos = min x.nearestNat p.maxInterval.nanos := by
  by_cases hle : whole p.maxInterval.nanos ≤ x.toInt
  · rw [capped_of_le hle, Nat.min_eq_right (Finite64.le_nearestNat hle)]
  · have hnearest : x.nearestNat ≤ p.maxInterval.nanos :=
      Finite64.nearestNat_le (Int.le_of_lt (Int.not_le.1 hle))
    have hword : x.nearestNat ≤ UInt64.size - 1 := Nat.le_trans (Nat.le_trans hnearest h) (by decide)
    have hlongest : x.nearestNat ≤ Duration.longest.nanos :=
      Nat.le_trans (Nat.le_trans hnearest h) (by decide)
    rw [capped]
    rw [if_neg (mt (Binary64.ofNat_le_iff h).1 hle), Duration.nanos_ofNanos,
      Nat.min_eq_left hword, Nat.min_eq_left hlongest, Nat.min_eq_left hnearest]

/-- How the waits of a policy keep to the longest. -/
structure KeepsToLongest (p : RetryPolicy) : Prop where
  delayFor_le : ∀ attempt, (p.delayFor attempt).nanos ≤ p.maxInterval.nanos
  /-- The product of initial wait and growth may be whatever it was rounded to. -/
  capped_le : ∀ product, (p.capped product).nanos ≤ p.maxInterval.nanos
  /-- A product that comes to the longest wait gives the longest wait. -/
  capped_of_le : ∀ x : Finite64, whole p.maxInterval.nanos ≤ x.toInt →
    p.capped (.finite x) = p.maxInterval
  /-- One that does not is rounded to whole nanoseconds, if the longest wait has up to 53 digits. -/
  nanos_capped : p.maxInterval.nanos ≤ 2 ^ 53 → ∀ x : Finite64,
    (p.capped (.finite x)).nanos = min x.nearestNat p.maxInterval.nanos

theorem keepsToLongest (p : RetryPolicy) : p.KeepsToLongest where
  delayFor_le _ := p.capped_le _
  capped_le := p.capped_le
  capped_of_le _ := capped_of_le
  nanos_capped := nanos_capped

/-- A longest wait of 2⁵³ + 1 ns is rounded down, and a product of 2⁵³ ns comes to all of it. -/
example : (capped { maxInterval := ⟨2 ^ 53 + 1, by decide⟩ } (.ofNat (2 ^ 53))).nanos = 2 ^ 53 + 1 := by
  decide +kernel

end Flowgraph.RetryPolicy
