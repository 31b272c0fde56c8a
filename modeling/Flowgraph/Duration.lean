/-
  Flowgraph/Duration.lean
  =======================
  **Lengths of time** — whole nanoseconds, up to 2⁶⁴ seconds less one nanosecond.
-/
import Flowgraph.Binary64

namespace Flowgraph

def nanosPerSecond : Nat := 1000000000

/-- A length of time. -/
structure Duration where
  nanos : Nat
  bounded : nanos < UInt64.size * nanosPerSecond
deriving DecidableEq

namespace Duration

def longest : Duration := ⟨UInt64.size * nanosPerSecond - 1, by decide⟩

/-- A number of nanoseconds, or the longest length of time if that is less. -/
def ofNanos (n : Nat) : Duration :=
  if h : n < UInt64.size * nanosPerSecond then ⟨n, h⟩ else longest

theorem nanos_ofNanos (n : Nat) : (ofNanos n).nanos = min n longest.nanos := by
  unfold ofNanos
  split
  · next h => exact (Nat.min_eq_left (Nat.le_sub_one_of_lt h)).symm
  · next h => exact (Nat.min_eq_right (Nat.le_trans (Nat.sub_le _ 1) (Nat.not_lt.1 h))).symm

def ofMillis (n : UInt64) : Duration :=
  ⟨n.toNat * 1000000, by
    have := n.toNat_lt
    unfold nanosPerSecond UInt64.size
    omega⟩

def zero : Duration := ofNanos 0

instance : Inhabited Duration := ⟨zero⟩

def seconds (d : Duration) : Nat := d.nanos / nanosPerSecond

def subsecond (d : Duration) : Nat := d.nanos % nanosPerSecond

def millis (d : Duration) : Nat := d.nanos / 1000000

def isZero (d : Duration) : Bool := d.nanos = 0

/-! ### Seconds as a binary64 number -/

/-- The length in seconds, from its whole seconds and its nanoseconds. -/
def toSeconds (d : Duration) : Binary64 :=
  Binary64.ofNat d.seconds + Binary64.ofNat d.subsecond / Binary64.ofNat nanosPerSecond

/-- The quotient to the nearest natural number, a half to the even one. -/
def roundHalfEven (num den : Nat) : Nat :=
  let below := num / den
  let rest := num % den
  if den < 2 * rest ∨ (2 * rest = den ∧ below % 2 = 1) then below + 1 else below

/-- A number of seconds to the nearest nanosecond; nothing if it is negative or too large. -/
def ofSeconds? : Binary64 → Option Duration
  | .finite x =>
    if x.negative ∧ x.units ≠ 0 then none
    else
      let n := roundHalfEven (x.units * nanosPerSecond) Binary64.one
      if h : n < UInt64.size * nanosPerSecond then some ⟨n, h⟩ else none
  | _ => none

/-! ### Description -/

/-- A count of a time unit, with the rest below it as a fraction of `places` digits less the
    zeros at their end. -/
def withFraction (whole rest places : Nat) (unit : String) : String :=
  let digits := Nat.toDigits 10 rest
  let padded := List.replicate (places - digits.length) '0' ++ digits
  let kept := (padded.reverse.dropWhile (· = '0')).reverse
  if rest = 0 then toString whole ++ unit
  else toString whole ++ "." ++ String.ofList kept ++ unit

/-- The length in the largest of the units second, milli-, micro- and nanosecond that it holds
    one of. -/
def describe (d : Duration) : String :=
  if 0 < d.seconds then withFraction d.seconds d.subsecond 9 "s"
  else if 1000000 ≤ d.nanos then withFraction (d.nanos / 1000000) (d.nanos % 1000000) 6 "ms"
  else if 1000 ≤ d.nanos then withFraction (d.nanos / 1000) (d.nanos % 1000) 3 "µs"
  else withFraction d.nanos 0 0 "ns"

end Duration

end Flowgraph
