/-
  Flowgraph/Text/Lowercase.lean
  =============================
  **Lower case** — the lower-case form of a whole text.  Each character is mapped on its own,
  except that a capital sigma becomes `ς` at the end of a word and `σ` elsewhere, so the form
  of a text is not in general made of the forms of its parts.
-/
import Flowgraph.Text.CasedTable
import Flowgraph.Text.LowerTable

namespace Flowgraph.Text

/-- The lower-case form of one character.  Only the dotted capital I gives two characters. -/
def lowerChar (c : Char) : List Char :=
  if c = 'İ' then ['i', '\u0307']
  else match lowerTable.find? (·.covers c.toNat) with
    | some run => [Char.ofNat (c.toNat + run.shift).toNat]
    | none => [c]

/-- Whether the characters, read away from a sigma, reach a cased letter before anything else
    that counts. -/
def meetsCased (cs : List Char) : Bool :=
  match cs.dropWhile caseIgnorableTable.holds with
  | c :: _ => casedTable.holds c
  | [] => false

/-- The form of a capital sigma between the characters before it (nearest first) and those
    after it: final when a word reaches it and does not go on. -/
def lowerSigma (before after : List Char) : Char :=
  if meetsCased before && !meetsCased after then 'ς' else 'σ'

/-- The lower-case form of `rest`, with the characters that precede it given nearest first. -/
def lowerFrom (before : List Char) : List Char → List Char
  | [] => []
  | c :: rest =>
    (if c = 'Σ' then [lowerSigma before rest] else lowerChar c) ++ lowerFrom (c :: before) rest

def lowercase (s : String) : String := String.ofList (lowerFrom [] s.toList)

end Flowgraph.Text
