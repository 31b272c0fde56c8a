/-
  Flowgraph/Json/Printer.lean
  ===========================
  **JSON text** — the compact form, with nothing between the parts, and the spread form, with a
  line to each part and two spaces a level.
-/
import Flowgraph.Json

namespace Flowgraph.Json

/-! ### Strings and numbers -/

/-- How a character is written in a string: quote and backslash escaped, control characters by
    name or number, all else as it is. -/
def escapeChar (c : Char) : List Char :=
  if c = '"' then ['\\', '"']
  else if c = '\\' then ['\\', '\\']
  else if c = '\x08' then ['\\', 'b']
  else if c = '\x0c' then ['\\', 'f']
  else if c = '\n' then ['\\', 'n']
  else if c = '\r' then ['\\', 'r']
  else if c = '\t' then ['\\', 't']
  else if c.toNat < 0x20 then
    ['\\', 'u', '0', '0', Nat.digitChar (c.toNat / 16), Nat.digitChar (c.toNat % 16)]
  else [c]

def quote (s : String) : String := String.ofList ('"' :: s.toList.flatMap escapeChar ++ ['"'])

/-- Numbers in JSON text: positional from 0.00001 up to below 10¹⁶, ties to even. -/
def decimalStyle : DecimalStyle := ⟨-5, 16, "+", .toEven⟩

def Number.text : Number → String
  | .int i => toString i
  | .float x => x.render decimalStyle

/-! ### Values -/

mutual

def compact : Json → String
  | .null => "null"
  | .bool b => if b then "true" else "false"
  | .num n => n.text
  | .str s => quote s
  | .arr items => "[" ++ compactItems items ++ "]"
  | .obj fields => "\x7b" ++ compactFields fields ++ "\x7d"

/-- The compact text of the items of an array, with commas between them. -/
def compactItems : List Json → String
  | [] => ""
  | [x] => x.compact
  | x :: y :: rest => x.compact ++ "," ++ compactItems (y :: rest)

/-- The compact text of the fields of an object, with commas between them. -/
def compactFields : List (String × Json) → String
  | [] => ""
  | [(k, v)] => quote k ++ ":" ++ v.compact
  | (k, v) :: f :: rest => quote k ++ ":" ++ v.compact ++ "," ++ compactFields (f :: rest)

end

def newLine (level : Nat) : String := String.ofList ('\n' :: List.replicate (2 * level) ' ')

mutual

/-- The spread text of a value that begins at a level.  Empty arrays and objects stay on their
    line. -/
def spreadAt (level : Nat) : Json → String
  | .arr [] => "[]"
  | .arr (x :: rest) =>
    "[" ++ newLine (level + 1) ++ spreadItems (level + 1) (x :: rest) ++ newLine level ++ "]"
  | .obj [] => "\x7b\x7d"
  | .obj (f :: rest) =>
    "\x7b" ++ newLine (level + 1) ++ spreadFields (level + 1) (f :: rest) ++ newLine level ++ "\x7d"
  | .null => "null"
  | .bool b => if b then "true" else "false"
  | .num n => n.text
  | .str s => quote s

/-- The items of an array, a line each. -/
def spreadItems (level : Nat) : List Json → String
  | [] => ""
  | [x] => spreadAt level x
  | x :: y :: rest => spreadAt level x ++ "," ++ newLine level ++ spreadItems level (y :: rest)

/-- The fields of an object, a line each. -/
def spreadFields (level : Nat) : List (String × Json) → String
  | [] => ""
  | [(k, v)] => quote k ++ ": " ++ spreadAt level v
  | (k, v) :: f :: rest =>
    quote k ++ ": " ++ spreadAt level v ++ "," ++ newLine level ++ spreadFields level (f :: rest)

end

def spread (j : Json) : String := spreadAt 0 j

/-- A value as running text: a string as it stands, `null` as nothing, all else as JSON. -/
def plainText : Json → String
  | .str s => s
  | .null => ""
  | j => j.compact

end Flowgraph.Json
