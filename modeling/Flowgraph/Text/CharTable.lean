/-
  Flowgraph/Text/CharTable.lean
  =============================
  **Character classes as tables** — a class of characters is a list of closed ranges of code
  points, tested by running through it.
-/
namespace Flowgraph.Text

/-- A class of characters: closed ranges of code points. -/
abbrev CharTable := List (Nat × Nat)

def CharTable.holds (table : CharTable) (c : Char) : Bool :=
  table.any fun range => range.1 ≤ c.toNat && c.toNat ≤ range.2

end Flowgraph.Text
