/-
  Flowgraph/Json/Numeral.lean
  ===========================
  **The number a numeral stands for** — a numeral without fraction and exponent is a whole number
  while it fits 64 bits; any other numeral is a binary64 number.

  The binary64 number is not always the nearest one.  Digits are gathered while the integer they
  make stays below 2⁶⁴, later digits of the whole part count as a power of ten and later digits of
  the fraction not at all; the integer is rounded, and multiplied or divided by the power of ten,
  which rounds once more.
-/
import Flowgraph.Json

namespace Flowgraph.Json

/-- A numeral as written: the digits before the point, those after it, and the exponent with its
    sign. -/
structure Numeral where
  negative : Bool
  whole : List Nat
  fraction : List Nat := []
  exponent : Option (Bool × List Nat) := none

namespace Numeral

/-! ### Gathering digits -/

/-- The greatest integer that digits are gathered into. -/
def maxSignificand : Nat := UInt64.size - 1

/-- Gathers the digits of a whole part: the integer, and how many digits were left over. -/
def gatherWhole (significand : Nat) : List Nat → Nat × Nat
  | [] => (significand, 0)
  | d :: rest =>
    if significand * 10 + d ≤ maxSignificand then gatherWhole (significand * 10 + d) rest
    else (significand, rest.length + 1)

/-- Gathers the digits of a fraction: the integer, and how many digits it took in. -/
def gatherFraction (significand taken : Nat) : List Nat → Nat × Nat
  | [] => (significand, taken)
  | d :: rest =>
    if significand * 10 + d ≤ maxSignificand then
      gatherFraction (significand * 10 + d) (taken + 1) rest
    else (significand, taken)

/-- The value of exponent digits, or how many digits were read when it passed 2³¹ - 1. -/
def gatherExponent (value read : Nat) : List Nat → Except Nat Nat
  | [] => .ok value
  | d :: rest =>
    if value * 10 + d < 0x80000000 then gatherExponent (value * 10 + d) (read + 1) rest
    else .error (read + 1)

/-! ### Scaling -/

/-- The number divided by a power of ten, in steps of 10³⁰⁸ at most. -/
def lower (x : Binary64) (exponent : Nat) : Binary64 :=
  if h : exponent ≤ 308 then x / Binary64.ofNat (Nat.pow 10 exponent)
  else if x = .finite .zero then x
  else lower (x / Binary64.ofNat (Nat.pow 10 308)) (exponent - 308)
termination_by exponent
decreasing_by omega

/-- The rounded integer times a power of ten; nothing when that is too large. -/
def scale (significand : Nat) (exponent : Int) : Option Finite64 :=
  let x := Binary64.ofNat significand
  let y :=
    if exponent < 0 then lower x (-exponent).toNat
    else if exponent ≤ 308 then x * Binary64.ofNat (Nat.pow 10 exponent.toNat)
    else if significand = 0 then x
    else .infinite false
  match y with
  | .finite z => some z
  | _ => none

/-- A number with a sign put before it. -/
def signed (negative : Bool) (x : Finite64) : Number := .float { x with negative := negative }

/-- Why a numeral has no value: it is too large.  If its exponent alone shows that, the error is
    the number of exponent digits that were read. -/
abbrev TooLarge := Option Nat

/-- The value of a numeral. -/
def value (n : Numeral) : Except TooLarge Number :=
  let (significand, surplus) := gatherWhole 0 n.whole
  match n.fraction, n.exponent, surplus with
  | [], none, 0 =>
    if !n.negative then .ok (.int significand)
    else if 0 < significand ∧ significand ≤ 0x8000000000000000 then .ok (.int (-significand))
    else finish n.negative (scale significand 0)
  | fraction, exponent, surplus =>
    let (significand, taken) := gatherFraction significand 0 fraction
    let start : Int := (surplus : Int) - taken
    match exponent with
    | none => finish n.negative (scale significand start)
    | some (down, digits) =>
      match gatherExponent 0 0 digits with
      | .error read =>
        if significand ≠ 0 ∧ !down then .error (some read)
        else .ok (signed n.negative .zero)
      | .ok e =>
        let power : Int := if down then start - e else start + e
        finish n.negative (scale significand (max (-0x80000000) (min power 0x7FFFFFFF)))
where
  /-- Puts the sign before a number that is not too large. -/
  finish (negative : Bool) : Option Finite64 → Except TooLarge Number
    | some x => .ok (signed negative x)
    | none => .error none

end Numeral

end Flowgraph.Json
