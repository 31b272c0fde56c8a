/-
  Flowgraph/Text/Blank.lean
  =========================
  **White space** — the characters with the Unicode property `White_Space`, and texts with
  the white space at their ends taken off.  The zero-width space and the byte order mark are
  not white space.
-/
import Flowgraph.Text.CharTable

namespace Flowgraph.Text

/-- The characters with the property `White_Space`. -/
def blankTable : CharTable :=
  [(0x9, 0xD), (0x20, 0x20), (0x85, 0x85), (0xA0, 0xA0), (0x1680, 0x1680), (0x2000, 0x200A),
   (0x2028, 0x2029), (0x202F, 0x202F), (0x205F, 0x205F), (0x3000, 0x3000)]

def isBlank (c : Char) : Bool := blankTable.holds c

/-- The text from its first character on that is not white space. -/
def trimStart (s : String) : String := String.ofList (s.toList.dropWhile isBlank)

/-- The text up to its last character that is not white space. -/
def trimEnd (s : String) : String :=
  String.ofList (s.toList.reverse.dropWhile isBlank).reverse

def trim (s : String) : String := trimEnd (trimStart s)

end Flowgraph.Text
