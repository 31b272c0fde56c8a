/-
  Flowgraph/Proofs/Binary64/Rounding.lean
  =======================================
  **Rounding to the grid** — what is rounded lies on the grid (`onGrid_roundUnits`), and rounding
  does not take it past any count of the grid, upwards or downwards (`roundUnits_le`,
  `le_roundUnits`).  In particular what lies on the grid is left as it is.

  The spacing of the grid at a count divides the spacing at every greater one.  This is all that
  the two bounds need to know of the grid; how a tie is decided does not matter to them.
-/
import Mathlib.Algebra.Order.Ring.Nat
import Mathlib.Data.Nat.Log
import Flowgraph.Binary64

namespace Flowgraph.Binary64

variable {units num den : Nat}

/-! ### The grid -/

/-- The count is a multiple of the spacing of the grid at its place. -/
def OnGrid (units : Nat) : Prop := spacing units ∣ units

theorem isRepresentable_iff : IsRepresentable units ↔ OnGrid units ∧ units < limit := by
  rw [IsRepresentable, OnGrid, Nat.dvd_iff_mod_eq_zero]

theorem spacing_pos (units : Nat) : 0 < spacing units := Nat.two_pow_pos _

theorem spacing_dvd_spacing {a b : Nat} (h : a ≤ b) : spacing a ∣ spacing b := by
  have hlog : a.log2 ≤ b.log2 := by
    rw [Nat.log2_eq_log_two, Nat.log2_eq_log_two]
    exact Nat.log_mono_right h
  exact Nat.pow_dvd_pow 2 (Nat.sub_le_sub_right hlog 52)

/-- Counts of 53 digits with any number of zeros after them are on the grid. -/
theorem onGrid_mul_two_pow {m : Nat} (hm : m ≤ 2 ^ 53) (k : Nat) : OnGrid (m * 2 ^ k) := by
  rcases Nat.eq_zero_or_pos m with rfl | hpos
  · rw [Nat.zero_mul]
    exact Nat.dvd_zero _
  have hne : m * 2 ^ k ≠ 0 := Nat.mul_ne_zero (Nat.ne_of_gt hpos) (Nat.ne_of_gt (Nat.two_pow_pos k))
  rcases Nat.lt_or_eq_of_le hm with hlt | rfl
  · have hlog : (m * 2 ^ k).log2 < 53 + k := by
      rw [Nat.log2_lt hne, Nat.pow_add]
      exact Nat.mul_lt_mul_of_pos_right hlt (Nat.two_pow_pos k)
    have hdvd : spacing (m * 2 ^ k) ∣ 2 ^ k := Nat.pow_dvd_pow 2 (by omega)
    exact Nat.dvd_trans hdvd (Nat.dvd_mul_left _ _)
  · -- the digits are all used up, and the spacing has doubled
    rw [← Nat.pow_add]
    have hlog : (2 ^ (53 + k)).log2 = 53 + k := Nat.log2_two_pow
    unfold OnGrid spacing
    rw [hlog]
    exact Nat.pow_dvd_pow 2 (by omega)

theorem onGrid_two_pow (k : Nat) : OnGrid (2 ^ k) := by
  have h := onGrid_mul_two_pow (m := 1) (by decide) k
  rwa [Nat.one_mul] at h

/-! ### Rounding -/

/-- Rounding gives the multiple of the spacing below the quotient, or the next if the quotient is
    no multiple. -/
theorem roundUnits_cases (num den : Nat) (hden : 0 < den) :
    let grid := spacing (num / den)
    roundUnits num den = num / (den * grid) * grid ∨
      roundUnits num den = (num / (den * grid) + 1) * grid ∧ 0 < num % (den * grid) := by
  intro grid
  have hstep : 0 < den * grid := Nat.mul_pos hden (spacing_pos _)
  unfold roundUnits
  dsimp only
  split
  · next hup =>
    refine .inr ⟨rfl, ?_⟩
    change den * grid < 2 * (num % (den * grid)) ∨ 2 * (num % (den * grid)) = den * grid ∧ _ at hup
    omega
  · exact .inl rfl

/-- Rounding stays below every count of the grid that the quotient is below. -/
theorem roundUnits_le (hden : 0 < den) (hgrid : OnGrid units) (h : num ≤ units * den) :
    roundUnits num den ≤ units := by
  have hquotient : num / den ≤ units := Nat.div_le_of_le_mul (Nat.mul_comm units den ▸ h)
  obtain ⟨m, hm⟩ := Nat.dvd_trans (spacing_dvd_spacing hquotient) hgrid
  have hnum : num ≤ den * spacing (num / den) * m := by
    rw [Nat.mul_assoc, ← hm, Nat.mul_comm]
    exact h
  have hbelow : num / (den * spacing (num / den)) ≤ m := Nat.div_le_of_le_mul hnum
  rcases roundUnits_cases num den hden with heq | ⟨heq, hrest⟩
  · rw [heq, hm, Nat.mul_comm]
    exact Nat.mul_le_mul_left _ hbelow
  · have hlt : num / (den * spacing (num / den)) < m := by
      refine Nat.lt_of_le_of_ne hbelow fun hall => ?_
      have hsplit := Nat.div_add_mod num (den * spacing (num / den))
      rw [hall] at hsplit
      omega
    rw [heq, hm, Nat.mul_comm]
    exact Nat.mul_le_mul_left _ hlt

/-- A count of the grid that is at most the quotient has a multiple of the spacing between it and
    the quotient. -/
theorem exists_multiple_between {quotient : Nat} (hgrid : OnGrid units) (h : units ≤ quotient) :
    ∃ m, units ≤ m * spacing quotient ∧ m * spacing quotient ≤ quotient := by
  by_cases hlog : units.log2 = quotient.log2
  · obtain ⟨m, hm⟩ := hgrid
    have hspacing : spacing units = spacing quotient := by
      unfold spacing
      rw [hlog]
    refine ⟨m, ?_, ?_⟩
    · rw [Nat.mul_comm, ← hspacing, ← hm]
    · rw [Nat.mul_comm, ← hspacing, ← hm]
      exact h
  · -- the quotient has more digits, and its first digit lies between
    have hlt : units.log2 < quotient.log2 := by
      refine Nat.lt_of_le_of_ne ?_ hlog
      rw [Nat.log2_eq_log_two, Nat.log2_eq_log_two]
      exact Nat.log_mono_right h
    have hne : quotient ≠ 0 := by
      rintro rfl
      simp at hlt
    have hfirst : 2 ^ (quotient.log2 - (quotient.log2 - 52)) * spacing quotient =
        2 ^ quotient.log2 := by
      change _ * 2 ^ (quotient.log2 - 52) = _
      rw [← Nat.pow_add]
      congr 1
      omega
    refine ⟨2 ^ (quotient.log2 - (quotient.log2 - 52)), ?_, ?_⟩
    · rw [hfirst]
      exact Nat.le_trans (Nat.le_of_lt Nat.lt_log2_self) (Nat.pow_le_pow_right (by decide) hlt)
    · rw [hfirst]
      exact Nat.log2_self_le hne

/-- Rounding stays above every count of the grid that the quotient is above. -/
theorem le_roundUnits (hden : 0 < den) (hgrid : OnGrid units) (h : units * den ≤ num) :
    units ≤ roundUnits num den := by
  have hquotient : units ≤ num / den := (Nat.le_div_iff_mul_le hden).2 h
  obtain ⟨m, hunits, hm⟩ := exists_multiple_between hgrid hquotient
  have hbelow : m ≤ num / (den * spacing (num / den)) := by
    rw [← Nat.div_div_eq_div_mul]
    exact (Nat.le_div_iff_mul_le (spacing_pos _)).2 hm
  have hle := Nat.le_trans hunits (Nat.mul_le_mul_right (spacing (num / den)) hbelow)
  rcases roundUnits_cases num den hden with heq | ⟨heq, -⟩
  · rw [heq]
    exact hle
  · rw [heq, Nat.add_mul]
    exact Nat.le_trans hle (Nat.le_add_right _ _)

theorem roundUnits_eq (hden : 0 < den) (hgrid : OnGrid units) :
    roundUnits (units * den) den = units :=
  Nat.le_antisymm (roundUnits_le hden hgrid (Nat.le_refl _))
    (le_roundUnits hden hgrid (Nat.le_refl _))

theorem roundUnits_zero (hden : 0 < den) : roundUnits 0 den = 0 := by
  have h := roundUnits_eq hden (Nat.dvd_zero (spacing 0))
  rwa [Nat.zero_mul] at h

/-- What is rounded has 53 digits at most, or is the next power of two. -/
theorem onGrid_roundUnits (hden : 0 < den) : OnGrid (roundUnits num den) := by
  have hbelow : num / (den * spacing (num / den)) < 2 ^ 53 := by
    rw [← Nat.div_div_eq_div_mul, Nat.div_lt_iff_lt_mul (spacing_pos _)]
    change num / den < 2 ^ 53 * 2 ^ ((num / den).log2 - 52)
    rw [← Nat.pow_add]
    exact Nat.lt_of_lt_of_le Nat.lt_log2_self (Nat.pow_le_pow_right (by decide) (by omega))
  rcases roundUnits_cases num den hden with heq | ⟨heq, -⟩
  · rw [heq]
    exact onGrid_mul_two_pow (Nat.le_of_lt hbelow) _
  · rw [heq]
    exact onGrid_mul_two_pow hbelow _

/-! ### Rounded numbers -/

theorem limit_pos : 0 < limit := by decide +kernel

theorem round_of_lt {negative : Bool} (hden : 0 < den) (h : roundUnits num den < limit) :
    round negative num den = .finite
      ⟨negative, roundUnits num den, isRepresentable_iff.2 ⟨onGrid_roundUnits hden, h⟩⟩ :=
  dif_pos _

theorem round_of_limit_le {negative : Bool} (h : limit ≤ roundUnits num den) :
    round negative num den = .infinite negative :=
  dif_neg fun hrepresentable => absurd hrepresentable.2 (Nat.not_lt.2 h)

theorem round_zero (negative : Bool) (hden : 0 < den) :
    ∃ z : Finite64, z.units = 0 ∧ round negative 0 den = .finite z := by
  have hlimit : roundUnits 0 den < limit := by
    rw [roundUnits_zero hden]
    exact limit_pos
  rw [round_of_lt hden hlimit]
  exact ⟨_, roundUnits_zero hden, rfl⟩

end Flowgraph.Binary64
