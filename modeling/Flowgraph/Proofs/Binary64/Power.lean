/-
  Flowgraph/Proofs/Binary64/Power.lean
  ====================================
  **Powers between powers of two** — the `n`-th power of a number up to `2 ^ k` is finite and at
  most `2 ^ (k * n)`, as long as that is a finite number (`AtMost.pow`); and that of a number from
  `2 ^ k` on is at least `2 ^ (k * n)`, or infinite (`AtLeast.pow`).

  A power is made by repeated squaring and every product is rounded.  Both bounds are kept by a
  product, since powers of two are on the grid, and so by the steps of the power
  (`powStep_induction`).
-/
import Mathlib.Tactic.Ring
import Flowgraph.Proofs.Binary64.Rounding

namespace Flowgraph.Binary64

variable {x y : Binary64} {units num den i j k n : Nat}

/-! ### Powers of two, in units -/

def twoPow (k : Nat) : Nat := 2 ^ k * one

theorem one_eq : one = 2 ^ 1074 := by decide +kernel

theorem limit_eq : limit = 2 ^ 2098 := by decide +kernel

theorem one_pos : 0 < one := by decide +kernel

theorem twoPow_pos (k : Nat) : 0 < twoPow k := Nat.mul_pos (Nat.two_pow_pos k) one_pos

theorem twoPow_eq (k : Nat) : twoPow k = 2 ^ (k + 1074) := by
  rw [twoPow, one_eq, Nat.pow_add]

theorem onGrid_twoPow (k : Nat) : OnGrid (twoPow k) := by
  rw [twoPow_eq]
  exact onGrid_two_pow _

theorem twoPow_mul (i j : Nat) : twoPow i * twoPow j = twoPow (i + j) * one := by
  unfold twoPow
  rw [Nat.pow_add]
  ring

theorem twoPow_lt_limit_iff : twoPow k < limit ↔ k < 1024 := by
  rw [twoPow_eq, limit_eq, Nat.pow_lt_pow_iff_right Nat.one_lt_two]
  omega

/-! ### Bounds of a number -/

/-- The number is finite, not negative, and has that many units at most. -/
inductive AtMost (units : Nat) : Binary64 → Prop
  | finite {x : Finite64} (sign : x.negative = false) (le : x.units ≤ units) :
    AtMost units (.finite x)

/-- The number is not negative and has that many units at least, or infinitely many. -/
inductive AtLeast (units : Nat) : Binary64 → Prop
  | finite {x : Finite64} (sign : x.negative = false) (le : units ≤ x.units) :
    AtLeast units (.finite x)
  | infinite : AtLeast units (.infinite false)

theorem AtMost.isFinite (h : x.AtMost units) : x.isFinite = true := by
  cases h
  rfl

theorem AtLeast.eq_infinite (h : x.AtLeast units) (hlimit : limit ≤ units) :
    x = .infinite false := by
  cases h with
  | @finite x sign le => exact absurd (Nat.le_trans hlimit le) (Nat.not_le.2 x.representable.2)
  | infinite => rfl

theorem atMost_round (hden : 0 < den) (hgrid : OnGrid units) (hlimit : units < limit)
    (h : num ≤ units * den) : (round false num den).AtMost units := by
  have hle := roundUnits_le hden hgrid h
  rw [round_of_lt hden (Nat.lt_of_le_of_lt hle hlimit)]
  exact .finite rfl hle

theorem atLeast_round (hden : 0 < den) (hgrid : OnGrid units) (h : units * den ≤ num) :
    (round false num den).AtLeast units := by
  have hle := le_roundUnits hden hgrid h
  by_cases hlimit : roundUnits num den < limit
  · rw [round_of_lt hden hlimit]
    exact .finite rfl hle
  · rw [round_of_limit_le (Nat.not_lt.1 hlimit)]
    exact .infinite

theorem atMost_ofNat {n : Nat} (h : n ≤ 2 ^ k) (hk : k < 1024) : (ofNat n).AtMost (twoPow k) := by
  refine atMost_round Nat.one_pos (onGrid_twoPow k) (twoPow_lt_limit_iff.2 hk) ?_
  rw [Nat.mul_one, twoPow]
  exact Nat.mul_le_mul_right one h

theorem atLeast_ofNat {n : Nat} (h : 2 ^ k ≤ n) : (ofNat n).AtLeast (twoPow k) := by
  refine atLeast_round Nat.one_pos (onGrid_twoPow k) ?_
  rw [Nat.mul_one, twoPow]
  exact Nat.mul_le_mul_right one h

theorem AtMost.zero : Binary64.AtMost units (.finite .zero) := .finite rfl (Nat.zero_le _)

theorem atLeastZero_finite (x : Finite64) :
    (finite x).atLeastZero = if x.negative then finite .zero else finite x := rfl

theorem AtMost.atLeastZero (h : y.AtMost units) (hle : x.le y = true) :
    x.atLeastZero.AtMost units := by
  cases h with
  | @finite y sign le =>
    cases x with
    | finite x =>
      rw [atLeastZero_finite]
      by_cases hx : x.negative = true
      · rw [if_pos hx]
        exact .zero
      · simp only [Binary64.le, Finite64.toInt, sign, hx, Bool.false_eq_true, ↓reduceIte,
          decide_eq_true_eq] at hle
        rw [if_neg hx]
        exact .finite (by simpa using hx) (by omega)
    | infinite negative =>
      cases negative with
      | true => exact .zero
      | false => cases hle
    | nan => cases hle

theorem AtLeast.atLeastZero (h : y.AtLeast units) (hpos : 0 < units) (hle : y.le x = true) :
    x.atLeastZero.AtLeast units := by
  cases x with
  | finite x =>
    cases h with
    | finite sign le =>
      simp only [Binary64.le, Finite64.toInt, sign, Bool.false_eq_true, ↓reduceIte,
        decide_eq_true_eq] at hle
      by_cases hx : x.negative = true
      · rw [if_pos hx] at hle
        omega
      · rw [if_neg hx] at hle
        rw [atLeastZero_finite, if_neg hx]
        exact .finite (by simpa using hx) (by omega)
    | infinite => cases hle
  | infinite negative =>
    cases negative with
    | true => cases h <;> cases hle
    | false => exact .infinite
  | nan => cases h <;> cases hle

/-! ### Products -/

theorem AtMost.mul (hx : x.AtMost (twoPow i)) (hy : y.AtMost (twoPow j)) (h : i + j < 1024) :
    (x * y).AtMost (twoPow (i + j)) := by
  cases hx with
  | @finite x hsign hunits =>
    cases hy with
    | @finite y hsign' hunits' =>
      change (round (x.negative != y.negative) (x.units * y.units) one).AtMost _
      rw [hsign, hsign']
      refine atMost_round one_pos (onGrid_twoPow _) (twoPow_lt_limit_iff.2 h) ?_
      rw [← twoPow_mul]
      exact Nat.mul_le_mul hunits hunits'

theorem AtLeast.mul (hx : x.AtLeast (twoPow i)) (hy : y.AtLeast (twoPow j)) :
    (x * y).AtLeast (twoPow (i + j)) := by
  have hne : ∀ {z : Finite64} {k : Nat}, twoPow k ≤ z.units → z.units ≠ 0 := by
    intro z k hz
    have := twoPow_pos k
    omega
  cases hx with
  | @finite x hsign hunits =>
    cases hy with
    | @finite y hsign' hunits' =>
      change (round (x.negative != y.negative) (x.units * y.units) one).AtLeast _
      rw [hsign, hsign']
      refine atLeast_round one_pos (onGrid_twoPow _) ?_
      rw [← twoPow_mul]
      exact Nat.mul_le_mul hunits hunits'
    | infinite =>
      change (if x.units = 0 then Binary64.nan
        else Binary64.infinite (x.negative != false)).AtLeast _
      rw [if_neg (hne hunits), hsign]
      exact .infinite
  | infinite =>
    cases hy with
    | @finite y hsign' hunits' =>
      change (if y.units = 0 then Binary64.nan
        else Binary64.infinite (false != y.negative)).AtLeast _
      rw [if_neg (hne hunits'), hsign']
      exact .infinite
    | infinite => exact .infinite

/-! ### Powers -/

/-- What is said of a number and a count of factors, and is kept by every product up to a top,
    holds of a power and its count. -/
theorem powStep_induction {R : Nat → Binary64 → Prop} {top : Nat}
    (hmul : ∀ {i j x y}, R i x → R j y → i + j ≤ top → R (i + j) (x * y))
    {acc base : Binary64} (hacc : R i acc) (hbase : R j base) (h : i + j * n ≤ top) :
    R (i + j * n) (powStep acc base n) := by
  induction n using Nat.strongRecOn generalizing acc base i j with
  | ind n ih =>
    have hsplit : j * n = j * (n % 2) + (j + j) * (n / 2) := by
      conv_lhs => rw [← Nat.div_add_mod n 2]
      ring
    have hodd : R (i + j * (n % 2)) (if n % 2 = 1 then acc * base else acc) := by
      rcases Nat.mod_two_eq_zero_or_one n with heven | hodd
      · rw [if_neg (by omega), heven]
        exact hacc
      · rw [if_pos hodd, hodd, Nat.mul_one]
        rw [hodd] at hsplit
        exact hmul hacc hbase (by omega)
    rw [powStep]
    split
    · next hend =>
      rw [hsplit, hend]
      exact hodd
    · next hmore =>
      have hsquare : j + j ≤ (j + j) * (n / 2) := Nat.le_mul_of_pos_right _ (by omega)
      rw [hsplit, ← Nat.add_assoc]
      exact ih (n / 2) (by omega) hodd (hmul hbase hbase (by omega)) (by omega)

theorem AtMost.pow (hx : x.AtMost (twoPow k)) (h : k * n < 1024) :
    (x.pow n).AtMost (twoPow (k * n)) := by
  have hmul : ∀ {i j x y}, AtMost (twoPow i) x → AtMost (twoPow j) y → i + j ≤ 1023 →
      AtMost (twoPow (i + j)) (x * y) := by
    intro i j x y hx hy hij
    exact hx.mul hy (by omega)
  have hone : AtMost (twoPow 0) 1 := atMost_ofNat (Nat.le_refl 1) (by decide)
  rw [← Nat.zero_add (k * n)]
  exact powStep_induction (R := fun i x => x.AtMost (twoPow i)) hmul hone hx (by omega)

theorem AtLeast.pow (hx : x.AtLeast (twoPow k)) (n : Nat) :
    (x.pow n).AtLeast (twoPow (k * n)) := by
  have hmul : ∀ {i j x y}, AtLeast (twoPow i) x → AtLeast (twoPow j) y → i + j ≤ 0 + k * n →
      AtLeast (twoPow (i + j)) (x * y) := by
    intro i j x y hx hy _
    exact hx.mul hy
  have hone : AtLeast (twoPow 0) 1 := atLeast_ofNat (Nat.le_refl 1)
  rw [← Nat.zero_add (k * n)]
  exact powStep_induction (R := fun i x => x.AtLeast (twoPow i)) hmul hone hx (Nat.le_refl _)

end Flowgraph.Binary64
