/-
  Flowgraph/Proofs/Binary64/Whole.lean
  ====================================
  **Whole numbers in binary64** — a whole number that is not above a number is not above it once
  it is rounded either (`ofNat_le_of_le`), and what a number is rounded to as a whole one stays on
  the same side of every whole number (`nearestNat_le`, `le_nearestNat`).

  A whole number may be rounded up, past what it is compared with, so the comparison need not
  decide as the exact one would.  But it errs to one side alone: what is found to be below the
  rounded number is below the exact one.  Up to 2⁵³ nothing is rounded, and the comparison is
  exact (`ofNat_le_iff`).
-/
import Flowgraph.Proofs.Binary64.Power

namespace Flowgraph

variable {n units : Nat} {x : Finite64}

/-! ### Units with their sign -/

theorem Finite64.onGrid_units (x : Finite64) : Binary64.OnGrid x.units :=
  (Binary64.isRepresentable_iff.1 x.representable).1

/-- Only zero is both negative and at least some number of units. -/
theorem Finite64.le_toInt_iff :
    units ≤ x.toInt ↔ units ≤ x.units ∧ (x.negative = true → x.units = 0) := by
  unfold toInt
  by_cases hx : x.negative = true
  · simp only [hx, ↓reduceIte, forall_const]
    omega
  · simp [hx]

theorem Finite64.toInt_le_iff : x.toInt ≤ units ↔ x.negative = true ∨ x.units ≤ units := by
  unfold toInt
  by_cases hx : x.negative = true
  · simp only [hx, ↓reduceIte, true_or, iff_true]
    omega
  · simp [hx]

namespace Binary64

/-- A whole number, in units. -/
def whole (n : Nat) : Nat := n * one

theorem ofNat_eq_round (n : Nat) : ofNat n = round false (whole n) 1 := rfl

/-! ### Comparison with a whole number -/

theorem finite_le_iff (x y : Finite64) : (finite x).le (finite y) = true ↔ x.toInt ≤ y.toInt :=
  decide_eq_true_iff

/-- Rounding does not take a whole number past a number that it is not above. -/
theorem ofNat_le_of_le (h : whole n ≤ x.toInt) : (ofNat n).le (finite x) = true := by
  obtain ⟨hunits, hnegative⟩ := Finite64.le_toInt_iff.1 h
  have hmost : (ofNat n).AtMost x.units := by
    apply atMost_round Nat.one_pos x.onGrid_units x.representable.2
    rwa [Nat.mul_one]
  generalize hrounded : ofNat n = y at hmost ⊢
  cases hmost with
  | @finite y hsign hle =>
    have hy : y.toInt = y.units := by simp [Finite64.toInt, hsign]
    rw [finite_le_iff, hy]
    exact Finite64.le_toInt_iff.2 ⟨hle, hnegative⟩

theorem lt_of_not_ofNat_le (h : ¬ (ofNat n).le (finite x) = true) : x.toInt < whole n := by
  apply Int.lt_of_not_ge
  intro hle
  exact h (ofNat_le_of_le hle)

theorem ofNat_eq_finite (h : n ≤ 2 ^ 53) :
    ∃ y : Finite64, ofNat n = finite y ∧ y.toInt = whole n := by
  have hgrid : OnGrid (whole n) := by
    rw [whole, one_eq]
    exact onGrid_mul_two_pow h 1074
  have hround : roundUnits (whole n) 1 = whole n := by
    have hexact := roundUnits_eq Nat.one_pos hgrid
    rwa [Nat.mul_one] at hexact
  have hlimit : roundUnits (whole n) 1 < limit := by
    rw [hround]
    calc whole n ≤ twoPow 53 := Nat.mul_le_mul_right one h
      _ < limit := twoPow_lt_limit_iff.2 (by decide)
  rw [ofNat_eq_round, round_of_lt Nat.one_pos hlimit]
  refine ⟨_, rfl, ?_⟩
  simp only [Finite64.toInt, Bool.false_eq_true, ↓reduceIte, hround]

/-- The comparison with a whole number of 53 digits is exact. -/
theorem ofNat_le_iff (h : n ≤ 2 ^ 53) : (ofNat n).le (finite x) = true ↔ whole n ≤ x.toInt := by
  obtain ⟨y, hy, hunits⟩ := ofNat_eq_finite h
  rw [hy, finite_le_iff, hunits]

end Binary64

/-! ### The nearest whole number -/

theorem Finite64.nearestNat_le (h : x.toInt ≤ Binary64.whole n) : x.nearestNat ≤ n := by
  unfold nearestNat
  split
  · exact Nat.zero_le n
  · next hx =>
    have hunits : x.units ≤ n * Binary64.one := (toInt_le_iff.1 h).resolve_left hx
    have hone := Binary64.one_pos
    generalize Binary64.one = one at hunits hone ⊢
    rw [← Nat.lt_succ_iff, Nat.div_lt_iff_lt_mul (Nat.mul_pos Nat.two_pos hone)]
    calc 2 * x.units + one ≤ 2 * (n * one) + one := by omega
      _ < 2 * (n * one) + 2 * one := by omega
      _ = (n + 1) * (2 * one) := by ring

theorem Finite64.le_nearestNat (h : Binary64.whole n ≤ x.toInt) : n ≤ x.nearestNat := by
  obtain ⟨hunits, hnegative⟩ := le_toInt_iff.1 h
  have hone := Binary64.one_pos
  unfold nearestNat
  unfold Binary64.whole at hunits
  generalize Binary64.one = one at hunits hone ⊢
  split
  · next hx =>
    rw [hnegative hx, Nat.le_zero, Nat.mul_eq_zero] at hunits
    exact Nat.le_of_eq (hunits.resolve_right (Nat.ne_of_gt hone))
  · rw [Nat.le_div_iff_mul_le (Nat.mul_pos Nat.two_pos hone)]
    calc n * (2 * one) = 2 * (n * one) := by ring
      _ ≤ 2 * x.units + one := by omega

end Flowgraph
