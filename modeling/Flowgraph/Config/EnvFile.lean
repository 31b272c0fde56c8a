/-
  Flowgraph/Config/EnvFile.lean
  =============================
  **Variables from a file** — a line `NAME=value` sets a variable that is not set yet.  Blank
  lines and lines that begin with `#` are passed over, `export` may stand before the name, blanks
  may stand around the equals sign, and a comment may follow the value after a blank.

  In a value, single quotes keep everything as it is; double quotes keep blanks; a backslash
  escapes a quote, a dollar sign, a blank or itself, and `\n` is a line feed; `$NAME` and
  `${NAME}` stand for the value of a variable.  The first line that cannot be read ends the file.

  An environment is searched for a name by the texts `NAME=value` of its variables, so a name in
  braces may take in the beginning of a value: with `X` set to `a=b`, `${X=a}` stands for `b`.
-/
import Flowgraph.Config
import Flowgraph.Text.AlphanumericTable

namespace Flowgraph.EnvFile

/-! ### Values -/

/-- What the name of a variable is read for. -/
inductive Naming
  /-- Nothing. -/
  | none
  /-- After a dollar sign. -/
  | bare
  /-- Within braces after a dollar sign. -/
  | braced
deriving DecidableEq

/-- A value being read.  Characters are kept with the last first. -/
structure Reading where
  output : List Char := []
  name : List Char := []
  naming : Naming := .none
  strong : Bool := false
  weak : Bool := false
  escaped : Bool := false
  /-- Whether a blank has ended the value. -/
  ended : Bool := false

/-- Puts in the value of the variable that was named. -/
def Reading.substitute (lookup : String → String) (r : Reading) : Reading :=
  { r with
    output := (lookup (String.ofList r.name.reverse)).toList.reverse ++ r.output
    name := [] }

/-- Takes in a character that stands for itself. -/
def Reading.push (r : Reading) (c : Char) : Reading := { r with output := c :: r.output }

/-- Takes in a character while a variable is named. -/
def Reading.nameChar (lookup : String → String) (r : Reading) (c : Char) : Reading :=
  if Text.alphanumericTable.holds c then { r with name := c :: r.name }
  else
    match r.naming with
    | .braced =>
      if c = '}' then { r.substitute lookup with naming := .none }
      else { r with name := c :: r.name }
    | _ =>
      if c = '{' ∧ r.name.isEmpty then { r with naming := .braced }
      else if c = '$' then { r.substitute lookup with naming := .bare }
      else { (r.substitute lookup).push c with naming := .none }

/-- Takes in a character outside of quotes. -/
def Reading.plainChar (r : Reading) (c : Char) : Reading :=
  if c = '\'' then { r with strong := true }
  else if c = '"' then { r with weak := true }
  else if c = '\\' then { r with escaped := true }
  else if c = ' ' ∨ c = '\t' then { r with ended := true }
  else r.push c

/-- Takes in a character within double quotes. -/
def Reading.weakChar (r : Reading) (c : Char) : Reading :=
  if c = '"' then { r with weak := false }
  else if c = '\\' then { r with escaped := true }
  else r.push c

/-- Takes in a character after a backslash. -/
def Reading.escapedChar (r : Reading) (c : Char) : Option Reading :=
  let r := { r with escaped := false }
  if c = '\\' ∨ c = '\'' ∨ c = '"' ∨ c = '$' ∨ c = ' ' then some (r.push c)
  else if c = 'n' then some (r.push '\n')
  else none

/-- Takes in a character. -/
def Reading.step (lookup : String → String) (r : Reading) (c : Char) : Option Reading :=
  if r.escaped then r.escapedChar c
  else if r.strong then some (if c = '\'' then { r with strong := false } else r.push c)
  else if r.naming ≠ .none then some (r.nameChar lookup c)
  else if c = '$' then some { r with naming := .bare }
  else if r.weak then some (r.weakChar c)
  else some (r.plainChar c)

/-- Ends a value, unless a quote or a brace is open. -/
def Reading.finish (lookup : String → String) (r : Reading) : Option String :=
  if r.strong ∨ r.weak ∨ r.naming = .braced then none
  else some (String.ofList (r.substitute lookup).output.reverse)

/-- Reads a value.  `lookup` gives the values of variables.  After a blank only blanks and a
    comment may follow. -/
def readValue (lookup : String → String) (r : Reading) : List Char → Option String
  | [] => r.finish lookup
  | c :: rest =>
    if r.ended then
      if c = ' ' ∨ c = '\t' then readValue lookup r rest
      else if c = '#' then r.finish lookup
      else none
    else
      match r.step lookup c with
      | some r => readValue lookup r rest
      | none => none

/-! ### Lines -/

/-- Whether a character may begin the name of a variable. -/
def isNameStart (c : Char) : Bool := c.isAlpha || c = '_'

/-- Whether a character may stand in the name of a variable. -/
def isNameChar (c : Char) : Bool := c.isAlphanum || c = '_' || c = '.'

/-- Goes past white space. -/
def skipBlank (cs : List Char) : List Char := cs.dropWhile Text.isBlank

/-- Reads a name and the white space after it. -/
def readName (cs : List Char) : Option (String × List Char) :=
  match cs with
  | c :: _ =>
    if isNameStart c then
      some (String.ofList (cs.takeWhile isNameChar), skipBlank (cs.dropWhile isNameChar))
    else none
  | [] => none

/-- Reads an equals sign and the white space after it. -/
def readEquals : List Char → Option (List Char)
  | '=' :: rest => some (skipBlank rest)
  | _ => none

/-- Reads the name on a line, which may follow the word `export`, up to its value. -/
def readTarget (cs : List Char) : Option (String × List Char) := do
  let (name, rest) ← readName cs
  match readEquals rest with
  | some rest => return (name, rest)
  | none =>
    if name = "export" then
      let (name, rest) ← readName rest
      return (name, ← readEquals rest)
    else none

/-- What a line says. -/
inductive Line
  | nothing
  | wrong
  | binding (name value : String)

/-- Reads a line. -/
def readLine (lookup : String → String) (line : String) : Line :=
  let cs := skipBlank (Text.trimEnd line).toList
  match cs with
  | [] | '#' :: _ => .nothing
  | _ =>
    match readTarget cs with
    | none => .wrong
    | some (name, []) | some (name, '#' :: _) => .binding name ""
    | some (name, rest) =>
      match readValue lookup {} rest with
      | some value => .binding name value
      | none => .wrong

/-! ### Files -/

/-- The lines of a file, up to the first that is not text. -/
def lines (content : List UInt8) : List String :=
  readable (content.splitOn 10)
where
  /-- The texts of the lines that can be read. -/
  readable : List (List UInt8) → List String
    | [] => []
    | bytes :: rest =>
      match String.fromUTF8? ⟨bytes.toArray⟩ with
      | some line => line :: readable rest
      | none => []

/-- What follows a name and an equals sign in the text `NAME=value` of a variable. -/
def valueAfter? (name : String) (entry : String × String) : Option String :=
  let wanted := name.toList ++ ['=']
  let text := entry.1.toList ++ '=' :: entry.2.toList
  if wanted.isPrefixOf text then some (String.ofList (text.drop wanted.length)) else none

/-- The value that a name stands for: the one that the environment has for it, or the one of the
    lines before. -/
def valueOf (env named : Environment) (name : String) : String :=
  ((env.findSome? (valueAfter? name)).or (named.get? name)).getD ""

/-- The environment with the variables of some lines.  `named` holds the values of the lines
    before, which are also known where the environment has another. -/
def setAll (env named : Environment) : List String → Environment
  | [] => env
  | line :: rest =>
    match readLine (valueOf env named) line with
    | .nothing => setAll env named rest
    | .wrong => env
    | .binding name value =>
      let env := if env.contains name then env else env.insert name value
      setAll env (named.insert name value) rest

/-- The environment with the variables of a file that it does not set itself. -/
def load (env : Environment) (content : ByteArray) : Environment :=
  setAll env [] (lines content.toList)

/-- The names after the dollar signs of a text, whose values the reading of it may need. -/
def mentioned : List Char → List String
  | [] => []
  | '$' :: '{' :: rest => String.ofList (rest.takeWhile (· ≠ '}')) :: mentioned rest
  | '$' :: rest => String.ofList (rest.takeWhile Text.alphanumericTable.holds) :: mentioned rest
  | _ :: rest => mentioned rest

end Flowgraph.EnvFile
