/-
  Flowgraph/Text/Number.lean
  ==========================
  **Numbers in settings** — whole numbers written with the digits 0 to 9 and perhaps a sign, and
  binary64 numbers in decimal, the infinities and the not-a-number value included.
-/
import Flowgraph.Binary64.Decimal

namespace Flowgraph.Text

/-- The value of digits; nothing unless there is one and all are digits. -/
def digitsValue? (cs : List Char) : Option Nat :=
  if cs.isEmpty ∨ ¬ cs.all Char.isDigit then none
  else some (cs.foldl (fun n c => n * 10 + (c.toNat - '0'.toNat)) 0)

/-- A whole number below `bound`, perhaps after a plus sign. -/
def natural? (bound : Nat) (s : String) : Option Nat :=
  let value := match s.toList with
    | '+' :: rest => digitsValue? rest
    | cs => digitsValue? cs
  value.filter (· < bound)

/-- A whole number of 64 bits with a sign, perhaps after one. -/
def integer? (s : String) : Option Int :=
  let value : Option Int := match s.toList with
    | '+' :: rest => (digitsValue? rest).map fun n => (n : Int)
    | '-' :: rest => (digitsValue? rest).map fun n => -(n : Int)
    | cs => (digitsValue? cs).map fun n => (n : Int)
  value.filter fun i => -0x8000000000000000 ≤ i ∧ i < 0x8000000000000000

/-- An exponent after its mark: digits, perhaps after a sign. -/
def exponent? : List Char → Option Int
  | '+' :: rest => (digitsValue? rest).map fun n => (n : Int)
  | '-' :: rest => (digitsValue? rest).map fun n => -(n : Int)
  | cs => (digitsValue? cs).map fun n => (n : Int)

/-- A decimal: digits with perhaps a point among, before or after them, and perhaps an
    exponent. -/
def decimal? (negative : Bool) (cs : List Char) : Option Binary64 := do
  let whole := cs.takeWhile Char.isDigit
  let rest := cs.dropWhile Char.isDigit
  let (fraction, rest) := match rest with
    | '.' :: rest => (rest.takeWhile Char.isDigit, rest.dropWhile Char.isDigit)
    | rest => ([], rest)
  let digits ← digitsValue? (whole ++ fraction)
  let exponent ← match rest with
    | [] => some 0
    | e :: rest => if e = 'e' ∨ e = 'E' then exponent? rest else none
  return Binary64.ofDecimal negative digits (exponent - fraction.length)

/-- A binary64 number after its sign. -/
def unsignedFloat? (negative : Bool) (cs : List Char) : Option Binary64 :=
  match cs.map Char.toLower with
  | ['i', 'n', 'f'] | ['i', 'n', 'f', 'i', 'n', 'i', 't', 'y'] => some (.infinite negative)
  | ['n', 'a', 'n'] => some .nan
  | _ => decimal? negative cs

/-- A binary64 number: a decimal, an infinity or the not-a-number value, perhaps after a sign.
    Capital and small letters count alike. -/
def float? (s : String) : Option Binary64 :=
  match s.toList with
  | '+' :: rest => unsignedFloat? false rest
  | '-' :: rest => unsignedFloat? true rest
  | cs => unsignedFloat? false cs

end Flowgraph.Text
