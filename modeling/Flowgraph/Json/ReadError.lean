/-
  Flowgraph/Json/ReadError.lean
  =============================
  **Why a value cannot be read** — a text that is not JSON (`TextFault`), or JSON of another
  shape than the one asked for (`ShapeFault`), and how each is reported.  A fault in a text is
  reported with its line and column, a fault in a value alone.
-/
import Flowgraph.Json.Printer
import Flowgraph.Text.Quoted

namespace Flowgraph.Json

/-! ### Texts that are not JSON -/

/-- What is wrong with a text. -/
inductive TextFault
  | endInValue
  | endInList
  | endInObject
  | endInString
  | expectedValue
  | expectedWord
  | invalidNumber
  | numberOutOfRange
  | expectedListEnd
  | expectedObjectEnd
  | expectedColon
  | keyNotString
  | trailingComma
  | trailingCharacters
  | invalidEscape
  | loneSurrogate
  | brokenPair
  | controlCharacter
  | tooDeep
deriving DecidableEq, Repr

def TextFault.message : TextFault → String
  | endInValue => "EOF while parsing a value"
  | endInList => "EOF while parsing a list"
  | endInObject => "EOF while parsing an object"
  | endInString => "EOF while parsing a string"
  | expectedValue => "expected value"
  | expectedWord => "expected ident"
  | invalidNumber => "invalid number"
  | numberOutOfRange => "number out of range"
  | expectedListEnd => "expected `,` or `]`"
  | expectedObjectEnd => "expected `,` or `\x7d`"
  | expectedColon => "expected `:`"
  | keyNotString => "key must be a string"
  | trailingComma => "trailing comma"
  | trailingCharacters => "trailing characters"
  | invalidEscape => "invalid escape"
  | loneSurrogate => "lone leading surrogate in hex escape"
  | brokenPair => "unexpected end of hex escape"
  | controlCharacter => "control character (\\u0000-\\u001F) found while parsing a string"
  | tooDeep => "recursion limit exceeded"

def TextFault.isEnd : TextFault → Bool
  | endInValue | endInList | endInObject | endInString => true
  | _ => false

/-! ### Values of another shape -/

/-- What stands where something else is asked for. -/
inductive Found
  | null
  | bool (b : Bool)
  | num (n : Number)
  | str (s : String)
  | list
  | object

/-- What was found, in words. -/
def Found.describe : Found → String
  | null => "null"
  | bool b => "boolean `" ++ (if b then "true" else "false") ++ "`"
  | num (.int i) => "integer `" ++ toString i ++ "`"
  | num (.float x) => "floating point `" ++ x.render decimalStyle ++ "`"
  | str s => "string " ++ Text.quoted s
  | list => "sequence"
  | object => "map"

/-- How a value differs from the shape asked for. -/
inductive ShapeFault
  /-- Another kind of value. -/
  | wrongKind (found : Found) (expected : String)
  | outOfRange (i : Int) (expected : String)
  | wrongLength (length : Nat) (expected : String)
  | missingField (name : String)
  | duplicateField (name : String)
  /-- A name outside the fields of a record that takes no others. -/
  | unknownField (name : String) (known : List String)

def backquoted (name : String) : String := "`" ++ name ++ "`"

def oneOf : List String → String
  | [] => "there are no fields"
  | [a] => "expected " ++ backquoted a
  | [a, b] => "expected " ++ backquoted a ++ " or " ++ backquoted b
  | names => "expected one of " ++ ", ".intercalate (names.map backquoted)

def ShapeFault.message : ShapeFault → String
  | wrongKind found expected => "invalid type: " ++ found.describe ++ ", expected " ++ expected
  | outOfRange i expected => "invalid value: integer `" ++ toString i ++ "`, expected " ++ expected
  | wrongLength n expected => "invalid length " ++ toString n ++ ", expected " ++ expected
  | missingField name => "missing field " ++ backquoted name
  | duplicateField name => "duplicate field " ++ backquoted name
  | unknownField name known => "unknown field " ++ backquoted name ++ ", " ++ oneOf known

/-! ### Faults and their places -/

/-- Why a value cannot be read. -/
inductive Cause
  | text (fault : TextFault)
  | shape (fault : ShapeFault)

def Cause.message : Cause → String
  | text fault => fault.message
  | shape fault => fault.message

/-- A fault of a text, with the number of bytes up to where it is noticed. -/
structure Flaw where
  fault : TextFault
  offset : Nat

/-- A fault of either kind, with the number of bytes up to where it is noticed. -/
structure Fault where
  cause : Cause
  offset : Nat

def Flaw.toFault (f : Flaw) : Fault := ⟨.text f.fault, f.offset⟩

/-- A line, counted from one, and the number of bytes before a place on it. -/
structure Position where
  line : Nat
  column : Nat
deriving DecidableEq

/-- Walks to a place, given the bytes still to go. -/
def Position.advance : Position → Nat → List Char → Position
  | p, _, [] => p
  | p, togo, c :: rest =>
    if togo = 0 then p
    else if c = '\n' then advance ⟨p.line + 1, 0⟩ (togo - 1) rest
    else advance ⟨p.line, p.column + min togo c.utf8Size⟩ (togo - c.utf8Size) rest

/-- The line and column of the place with so many bytes of a text before it. -/
def Position.ofOffset (text : String) (offset : Nat) : Position :=
  Position.advance ⟨1, 0⟩ offset text.toList

/-- Why a text or a value was refused. -/
structure ReadError where
  cause : Cause
  position : Option Position

/-- The report, with the position where there is one. -/
def ReadError.message (e : ReadError) : String :=
  match e.position with
  | none => e.cause.message
  | some p => e.cause.message ++ " at line " ++ toString p.line ++ " column " ++ toString p.column

/-- The report for a developer: the parts of the error by name. -/
def ReadError.describe (e : ReadError) : String :=
  let p := e.position.getD ⟨0, 0⟩
  "Error(" ++ Text.quoted e.cause.message ++ ", line: " ++ toString p.line ++ ", column: " ++
    toString p.column ++ ")"

end Flowgraph.Json
