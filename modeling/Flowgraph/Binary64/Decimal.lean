/-
  Flowgraph/Binary64/Decimal.lean
  ===============================
  **Decimal forms of binary64 numbers** — reading: the number nearest to a decimal; writing:
  the fewest digits that are nearer to the number than to any other (`Finite64.shortest`), set
  out by a `DecimalStyle`.

  The reals that round to a number form an interval around it, ends included when its last
  binary digit is even.  For one digit, two digits, … the two neighbours of the number with that
  many digits are tried in exact arithmetic, and the first that lies in the interval is taken.
  Which of two that are equally near is for a `Tie` to say.
-/
import Flowgraph.Binary64

namespace Flowgraph

/-! ### Reading -/

/-- The number nearest to `digits · 10 ^ exponent`.  Exponents that cannot matter are not
    raised to. -/
def Binary64.ofDecimal (negative : Bool) (digits : Nat) (exponent : Int) : Binary64 :=
  if digits = 0 then round negative 0 1
  else if 400 < exponent then .infinite negative
  else if exponent < -(400 + digits.log2 : Nat) then round negative 0 1
  else if 0 ≤ exponent then round negative (digits * Nat.pow 10 exponent.toNat * one) 1
  else round negative (digits * one) (Nat.pow 10 (-exponent).toNat)

/-! ### The shortest digits -/

/-- A decimal number `digits · 10 ^ exponent`. -/
structure Decimal where
  digits : Nat
  exponent : Int
deriving DecidableEq, Repr

/-- Drops the zeros at the end of the digits; at most `fuel` of them. -/
def Decimal.strip : Nat → Decimal → Decimal
  | 0, d => d
  | fuel + 1, d =>
    if d.digits % 10 = 0 ∧ d.digits ≠ 0 then strip fuel ⟨d.digits / 10, d.exponent + 1⟩ else d

/-- The decimal exponent of the first digit: the greatest `e` with `10 ^ e` at most the number.
    The binary exponent gives it up to one. -/
def Binary64.decimalExponent (units : Nat) : Int :=
  let guess : Int := ((units.log2 : Int) - 1074) * 30103 / 100000
  let reaches (e : Int) : Bool :=
    if 0 ≤ e then Nat.pow 10 e.toNat * one ≤ units else one ≤ units * Nat.pow 10 (-e).toNat
  if reaches (guess + 1) then guess + 1 else if reaches guess then guess else guess - 1

/-- The interval of the reals that round to a count, in quarters of a unit: its ends, and
    whether they belong to it. -/
structure Binary64.Interval where
  low : Nat
  high : Nat
  closed : Bool

/-- The interval around a positive count.  Below a power of two the grid is twice as fine. -/
def Binary64.interval (units : Nat) : Interval :=
  let grid := spacing units
  let belowHalf := if units = Nat.pow 2 units.log2 ∧ 1 < grid then grid else 2 * grid
  ⟨4 * units - belowHalf, 4 * units + 2 * grid, units / grid % 2 = 0⟩

/-- Where a number goes that is equally near to two decimals: to the one with the even last
    digit, or to the one farther from zero. -/
inductive Tie
  | toEven
  | away
deriving DecidableEq, Repr

/-- Whether a tie between a count and the next goes up. -/
def Tie.up (tie : Tie) (below : Nat) : Bool :=
  match tie with
  | .toEven => below % 2 = 1
  | .away => true

/-- The decimal on the grid of `10 ^ exponent` that lies in the interval around a count, if one
    does: of two, the nearer, and of two equally near the one that the tie goes to. -/
def Binary64.onGrid (tie : Tie) (units : Nat) (exponent : Int) : Option Decimal :=
  let range := interval units
  let scale := Nat.pow 10 (-exponent).toNat
  let unit := 4 * one * Nat.pow 10 exponent.toNat
  let value := 4 * units * scale
  let inside (n : Nat) : Bool :=
    if range.closed then range.low * scale ≤ n * unit ∧ n * unit ≤ range.high * scale
    else range.low * scale < n * unit ∧ n * unit < range.high * scale
  let below := value / unit
  let rest := value % unit
  let upper := unit < 2 * rest ∨ (2 * rest = unit ∧ tie.up below)
  let first := if upper then below + 1 else below
  let second := if upper then below else below + 1
  if inside first then some ⟨first, exponent⟩
  else if inside second then some ⟨second, exponent⟩
  else none

/-- The first grid with a hit, from the coarsest on; `fuel` grids are tried. -/
def Binary64.firstOnGrid (tie : Tie) (units : Nat) : Nat → Int → Decimal
  | 0, _ => ⟨0, 0⟩
  | fuel + 1, exponent =>
    (onGrid tie units exponent).getD (firstOnGrid tie units fuel (exponent - 1))

/-- The shortest decimal that is read back as the number, without its sign. -/
def Finite64.shortest (x : Finite64) (tie : Tie) : Decimal :=
  if x.units = 0 then ⟨0, 0⟩
  else (Binary64.firstOnGrid tie x.units 18 (Binary64.decimalExponent x.units)).strip 18

/-! ### Setting out -/

/-- How a decimal is set out: positionally when its first digit stands at an exponent from
    `least` up to but not including `bound`, and with an exponent otherwise. -/
structure DecimalStyle where
  least : Int
  bound : Int
  /-- What stands before a positive exponent. -/
  positive : String
  /-- Which of two equally near decimals is set out. -/
  tie : Tie

/-- Digits with a point after the first of them, if others follow. -/
def pointAfterFirst (digits : List Char) : String :=
  match digits with
  | [] => ""
  | [d] => d.toString
  | d :: rest => String.ofList (d :: '.' :: rest)

/-- A decimal set out.  The positional form has a digit on both sides of the point. -/
def DecimalStyle.render (style : DecimalStyle) (d : Decimal) : String :=
  let digits := Nat.toDigits 10 d.digits
  let first : Int := d.exponent + digits.length - 1
  if d.digits = 0 then "0.0"
  else if style.least ≤ first ∧ first < style.bound then
    if 0 ≤ d.exponent then
      String.ofList (digits ++ List.replicate d.exponent.toNat '0') ++ ".0"
    else if 0 ≤ first then
      String.ofList (digits.take (first.toNat + 1)) ++ "." ++
        String.ofList (digits.drop (first.toNat + 1))
    else
      "0." ++ String.ofList (List.replicate (-first - 1).toNat '0' ++ digits)
  else
    let sign := if first < 0 then "-" else style.positive
    pointAfterFirst digits ++ "e" ++ sign ++ toString first.natAbs

/-- A finite number in the given style, with its sign; the negative zero keeps its own. -/
def Finite64.render (x : Finite64) (style : DecimalStyle) : String :=
  (if x.negative then "-" else "") ++ style.render (x.shortest style.tie)

/-- Numbers in descriptions: positional from 0.0001 up to below 10¹⁶, ties away from zero. -/
def DecimalStyle.described : DecimalStyle := ⟨-4, 16, "", .away⟩

def Binary64.describe : Binary64 → String
  | .nan => "NaN"
  | .infinite true => "-inf"
  | .infinite false => "inf"
  | .finite x => x.render .described

end Flowgraph
