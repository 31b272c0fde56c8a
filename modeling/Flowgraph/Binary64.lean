/-
  Flowgraph/Binary64.lean
  =======================
  **Binary64 numbers, exactly** — the numbers with 53 significant binary digits, as counts of
  the smallest of them: a finite number is a sign and a number of *units* of 2⁻¹⁰⁷⁴.  Every
  operation is the exact rational result rounded once (`round`) to the nearest number, ties to
  the even digit, so its laws are facts about natural numbers.

  `roundUnits` is the rounding, `Finite64` the finite numbers, `Binary64` those with the two
  infinities and the not-a-number value.
-/
namespace Flowgraph

/-! ### The grid of representable counts -/

namespace Binary64

/-- The distance between neighbouring representable counts from `units` upwards: one unit while
    53 binary digits suffice, then doubling with every further digit. -/
def spacing (units : Nat) : Nat := Nat.pow 2 (units.log2 - 52)

/-- The least count that is too large for a finite number: 2¹⁰²⁴ in units. -/
def limit : Nat := Nat.pow 2 2098

/-- The number one, in units. -/
def one : Nat := Nat.pow 2 1074

/-- A count that some finite number has. -/
def IsRepresentable (units : Nat) : Prop := units % spacing units = 0 ∧ units < limit

instance (units : Nat) : Decidable (IsRepresentable units) := by
  unfold IsRepresentable; infer_instance

/-- The quotient `num / den` rounded to the grid, ties to the even multiple of the spacing.
    The result may lie at or past the limit. -/
def roundUnits (num den : Nat) : Nat :=
  let grid := spacing (num / den)
  let step := den * grid
  let below := num / step
  let rest := num % step
  if step < 2 * rest ∨ (2 * rest = step ∧ below % 2 = 1) then (below + 1) * grid
  else below * grid

end Binary64

/-- A finite binary64 number.  Zero has both signs. -/
structure Finite64 where
  negative : Bool
  units : Nat
  representable : Binary64.IsRepresentable units
deriving DecidableEq

/-- A binary64 number.  All not-a-number values count as one. -/
inductive Binary64
  | nan
  | infinite (negative : Bool)
  | finite (x : Finite64)
deriving DecidableEq

def Finite64.zero : Finite64 := ⟨false, 0, by decide +kernel⟩

instance : Inhabited Finite64 := ⟨Finite64.zero⟩
instance : Inhabited Binary64 := ⟨.finite .zero⟩

/-- The number in units, with its sign. -/
def Finite64.toInt (x : Finite64) : Int := if x.negative then -(x.units : Int) else x.units

namespace Binary64

/-! ### Rounding -/

/-- The number nearest to `num / den` units, with the given sign.  Past the largest finite
    number it is infinite. -/
def round (negative : Bool) (num den : Nat) : Binary64 :=
  if h : IsRepresentable (roundUnits num den) then .finite ⟨negative, roundUnits num den, h⟩
  else .infinite negative

def ofNat (n : Nat) : Binary64 := round false (n * one) 1

def ofInt (i : Int) : Binary64 := round (i < 0) (i.natAbs * one) 1

instance (n : Nat) : OfNat Binary64 n := ⟨ofNat n⟩

/-! ### Arithmetic -/

/-- Whether the number is neither infinite nor the not-a-number value. -/
def isFinite : Binary64 → Bool
  | finite _ => true
  | _ => false

/-- The number as a finite one, if it is finite. -/
def toFinite? : Binary64 → Option Finite64
  | finite x => some x
  | _ => none

def neg : Binary64 → Binary64
  | nan => nan
  | infinite s => infinite !s
  | finite x => finite { x with negative := !x.negative }

/-- The product.  Nothing is infinitely often zero. -/
def mul : Binary64 → Binary64 → Binary64
  | nan, _ | _, nan => nan
  | infinite s, infinite t => infinite (s != t)
  | infinite s, finite y => if y.units = 0 then nan else infinite (s != y.negative)
  | finite x, infinite t => if x.units = 0 then nan else infinite (x.negative != t)
  | finite x, finite y => round (x.negative != y.negative) (x.units * y.units) one

def div : Binary64 → Binary64 → Binary64
  | nan, _ | _, nan => nan
  | infinite _, infinite _ => nan
  | infinite s, finite y => infinite (s != y.negative)
  | finite x, infinite t => finite { Finite64.zero with negative := x.negative != t }
  | finite x, finite y =>
    if y.units = 0 then
      if x.units = 0 then nan else infinite (x.negative != y.negative)
    else round (x.negative != y.negative) (x.units * one) y.units

/-- The sum.  Opposite numbers give the positive zero. -/
def add : Binary64 → Binary64 → Binary64
  | nan, _ | _, nan => nan
  | infinite s, infinite t => if s = t then infinite s else nan
  | infinite s, finite _ => infinite s
  | finite _, infinite t => infinite t
  | finite x, finite y =>
    if x.negative = y.negative then round x.negative (x.units + y.units) 1
    else if y.units < x.units then round x.negative (x.units - y.units) 1
    else if x.units < y.units then round y.negative (y.units - x.units) 1
    else finite .zero

instance : Mul Binary64 := ⟨mul⟩
instance : Div Binary64 := ⟨div⟩
instance : Add Binary64 := ⟨add⟩
instance : Neg Binary64 := ⟨neg⟩

/-- The greater of the number and zero; zero for the not-a-number value. -/
def atLeastZero : Binary64 → Binary64
  | nan => finite .zero
  | infinite true => finite .zero
  | infinite false => infinite false
  | finite x => if x.negative then finite .zero else finite x

/-- One step of a power: `acc` times the `n`-th power of `base`, by squaring. -/
def powStep (acc base : Binary64) (n : Nat) : Binary64 :=
  let acc := if n % 2 = 1 then acc * base else acc
  if h : n / 2 = 0 then acc else powStep acc (base * base) (n / 2)
termination_by n
decreasing_by omega

/-- The `n`-th power, by repeated squaring from the lowest digit of `n` on; each product is
    rounded. -/
def pow (base : Binary64) (n : Nat) : Binary64 := powStep 1 base n

/-! ### Order and whole numbers -/

/-- Whether the first number is at most the second.  The not-a-number value is not
    comparable. -/
def le : Binary64 → Binary64 → Bool
  | nan, _ | _, nan => false
  | infinite s, infinite t => s || !t
  | infinite s, finite _ => s
  | finite _, infinite t => !t
  | finite x, finite y => x.toInt ≤ y.toInt

end Binary64

/-- The nearest natural number, a half going up; zero for a negative number. -/
def Finite64.nearestNat (x : Finite64) : Nat :=
  if x.negative then 0 else (2 * x.units + Binary64.one) / (2 * Binary64.one)

/-! ### The interchange format -/

/-- The 63 bits of the interchange format below the sign. -/
def Finite64.magnitudeBits (x : Finite64) : Nat :=
  if x.units < 0x10000000000000 then x.units
  else
    let exponent := x.units.log2 - 52
    (exponent + 1) * 0x10000000000000 + (x.units / Nat.pow 2 exponent - 0x10000000000000)

/-- The 64 bits of the interchange format: sign, biased exponent, fraction.  The not-a-number
    value is the quiet one with no other bit set. -/
def Binary64.toBits : Binary64 → Nat
  | nan => 0x7FF8000000000000
  | infinite s => (if s then 0x8000000000000000 else 0) + 0x7FF0000000000000
  | finite x => (if x.negative then 0x8000000000000000 else 0) + x.magnitudeBits

end Flowgraph
