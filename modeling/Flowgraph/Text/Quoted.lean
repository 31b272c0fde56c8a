/-
  Flowgraph/Text/Quoted.lean
  ==========================
  **Quoted text** — a text between double quotes, as error messages show it.  A quote and a
  backslash are escaped by a backslash, NUL, tab, line feed and carriage return have names of
  their own, and every character that cannot be seen is written `\u{…}` with its number.  An
  apostrophe stands for itself.
-/
import Flowgraph.Text.EscapedTable

namespace Flowgraph.Text

/-- A number in base sixteen, in small letters and without leading zeros. -/
def hex (n : Nat) : String := String.ofList (Nat.toDigits 16 n)

/-- How a character is written between quotes. -/
def quoteChar (c : Char) : String :=
  if c = '"' then "\\\""
  else if c = '\\' then "\\\\"
  else if c = '\x00' then "\\0"
  else if c = '\t' then "\\t"
  else if c = '\n' then "\\n"
  else if c = '\r' then "\\r"
  else if escapedTable.holds c then "\\u\x7b" ++ hex c.toNat ++ "\x7d"
  else c.toString

def quoted (s : String) : String :=
  "\"" ++ String.join (s.toList.map quoteChar) ++ "\""

end Flowgraph.Text
