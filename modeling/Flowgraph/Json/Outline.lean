/-
  Flowgraph/Json/Outline.lean
  ===========================
  **The outline of a JSON text** — the tree of a text as far as it goes.  Where the text breaks
  off, the tree holds the fault in place of what is missing, so a reader that walks the tree from
  left to right meets the faults of shape and the faults of the text in the order of the text.

  `Document.ofText` outlines a text, `Outline.toJson` reads a value of any shape, and
  `Outline.pass` goes past a value that nobody asked for.
-/
import Flowgraph.Json.Lexeme

namespace Flowgraph.Json

/-- How the list of an array's items or an object's fields ends. -/
inductive Ending
  /-- By its bracket, which ends after so many bytes. -/
  | closed (stop : Nat)
  /-- The text breaks off; `surplus` is the fault for a reader who wants no more items. -/
  | broken (place : Broken) (surplus : Flaw)

/-- The name of a field.  `after` is where a reader stands who refuses the name. -/
structure Key where
  name : Except Flaw String
  after : Nat

/-- A value as written, with the bytes it covers. -/
inductive Outline
  | null (start stop : Nat)
  | bool (b : Bool) (start stop : Nat)
  | number (value : Except Flaw Number) (start stop : Nat)
  | string (value : Except Flaw String) (start stop : Nat)
  | array (start : Nat) (items : List Outline) (ending : Ending)
  | object (start : Nat) (fields : List (Key × Outline)) (ending : Ending)
  | broken (start : Nat) (place : Broken)

/-- Where a value begins. -/
def Outline.start : Outline → Nat
  | null start _ | bool _ start _ | number _ start _ | string _ start _
  | array start _ _ | object start _ _ | broken start _ => start

/-! ### From lexemes -/

/-- An end at which a missing comma or bracket is noticed. -/
def Ending.unclosed (fault : TextFault) (l : Lexeme) : Ending :=
  .broken (.both fault (l.start + 1)) ⟨.trailingCharacters, l.start + 1⟩

/-- An end with a comma and then the bracket. -/
def Ending.afterComma (passed : TextFault) (l : Lexeme) : Ending :=
  .broken ⟨⟨.trailingComma, l.start + 1⟩, ⟨passed, l.start + 1⟩⟩ ⟨.trailingComma, l.start + 1⟩

/-- The end of the text, after so many bytes, instead of a comma or a bracket. -/
def Ending.cutShort (fault : TextFault) (size : Nat) : Ending :=
  .broken (.both fault size) ⟨fault, size⟩

/-- The end of the text after a comma. -/
def Ending.cutAfterComma (passed : TextFault) (size : Nat) : Ending :=
  .broken ⟨⟨.endInValue, size⟩, ⟨passed, size⟩⟩ ⟨.trailingCharacters, size⟩

namespace Outline

mutual

/-- The value at the head of the lexemes of a text of `size` bytes, and the lexemes after it.
    After a break there are none. -/
def value (size : Nat) : Nat → List Lexeme → Outline × List Lexeme
  | 0, _ | _, [] => (.broken size (.both .endInValue size), [])
  | fuel + 1, l :: rest =>
    match l.token with
    | .null => (.null l.start l.stop, rest)
    | .bool b => (.bool b l.start l.stop, rest)
    | .number n => (.number n l.start l.stop, rest)
    | .string s => (.string s l.start l.stop, rest)
    | .openArray =>
      let (items, ending, rest) := firstItem size fuel rest
      (.array l.start items ending, rest)
    | .openObject =>
      let (fields, ending, rest) := firstField size fuel rest
      (.object l.start fields ending, rest)
    | .broken _ place => (.broken l.start place, [])
    | .closeArray | .closeObject | .comma | .colon =>
      (.broken l.start (.both .expectedValue (l.start + 1)), [])

/-- The items after an opening bracket. -/
def firstItem (size : Nat) : Nat → List Lexeme → List Outline × Ending × List Lexeme
  | 0, _ | _, [] => ([], .cutShort .endInList size, [])
  | fuel + 1, l :: rest =>
    match l.token with
    | .closeArray => ([], .closed l.stop, rest)
    | _ => item size fuel (l :: rest)

/-- An item and those after it. -/
def item (size : Nat) : Nat → List Lexeme → List Outline × Ending × List Lexeme
  | 0, _ => ([], .cutShort .endInList size, [])
  | fuel + 1, ls =>
    let (x, rest) := value size fuel ls
    let (xs, ending, rest) := moreItems size fuel rest
    (x :: xs, ending, rest)

/-- The items after an item. -/
def moreItems (size : Nat) : Nat → List Lexeme → List Outline × Ending × List Lexeme
  | 0, _ | _, [] => ([], .cutShort .endInList size, [])
  | fuel + 1, l :: rest =>
    match l.token, rest with
    | .closeArray, _ => ([], .closed l.stop, rest)
    | .comma, [] => ([], .cutAfterComma .endInValue size, [])
    | .comma, next :: _ =>
      match next.token with
      | .closeArray => ([], .afterComma .expectedValue next, [])
      | _ => item size fuel rest
    | _, _ => ([], .unclosed .expectedListEnd l, [])

/-- The fields after an opening brace. -/
def firstField (size : Nat) : Nat → List Lexeme → List (Key × Outline) × Ending × List Lexeme
  | 0, _ | _, [] => ([], .cutShort .endInObject size, [])
  | fuel + 1, l :: rest =>
    match l.token with
    | .closeObject => ([], .closed l.stop, rest)
    | _ => field size fuel (l :: rest)

/-- A field and those after it. -/
def field (size : Nat) : Nat → List Lexeme → List (Key × Outline) × Ending × List Lexeme
  | 0, _ | _, [] => ([], .cutShort .endInObject size, [])
  | fuel + 1, l :: rest =>
    match l.token with
    | .string name =>
      let missing (after : Nat) (fault : TextFault) (offset : Nat) :=
        ([(⟨name, after⟩, .broken offset (.both fault offset))], .cutShort .endInObject size, [])
      match rest with
      | [] => missing size .endInObject size
      | next :: rest =>
        match next.token with
        | .colon =>
          let (x, rest) := value size fuel rest
          let (xs, ending, rest) := moreFields size fuel rest
          ((⟨name, next.start⟩, x) :: xs, ending, rest)
        | .closeObject => missing (next.start + 1) .expectedColon (next.start + 1)
        | _ => missing next.start .expectedColon (next.start + 1)
    | .broken true place => ([], .broken place ⟨.trailingCharacters, l.start + 1⟩, [])
    | _ => ([], .unclosed .keyNotString l, [])

/-- The fields after a field. -/
def moreFields (size : Nat) : Nat → List Lexeme → List (Key × Outline) × Ending × List Lexeme
  | 0, _ | _, [] => ([], .cutShort .endInObject size, [])
  | fuel + 1, l :: rest =>
    match l.token, rest with
    | .closeObject, _ => ([], .closed l.stop, rest)
    | .comma, [] => ([], .cutAfterComma .endInObject size, [])
    | .comma, next :: _ =>
      match next.token with
      | .closeObject => ([], .afterComma .keyNotString next, [])
      | _ => field size fuel rest
    | _, _ => ([], .unclosed .expectedObjectEnd l, [])

end

end Outline

/-- The outline of a text: its value, and the fault of what follows it. -/
structure Document where
  root : Outline
  trailing : Option Flaw

/-- The outline of a text.  Each lexeme is looked at three times at most. -/
def Document.ofText (text : String) : Document :=
  let lexemes := Lexeme.ofText text
  let (root, rest) := Outline.value text.utf8ByteSize (3 * lexemes.length + 1) lexemes
  ⟨root, rest.head?.map fun l => ⟨.trailingCharacters, l.start + 1⟩⟩

/-! ### Reading and passing over -/

/-- The check at the end of a list that is read. -/
def Ending.read : Ending → Except Flaw Unit
  | closed _ => .ok ()
  | broken place _ => .error place.read

/-- The check at the end of a list that is passed over. -/
def Ending.pass : Ending → Except Flaw Unit
  | closed _ => .ok ()
  | broken place _ => .error place.passed

namespace Outline

mutual

/-- Goes past a value, which may be nested to any depth. -/
def pass : Outline → Except Flaw Unit
  | .null .. | .bool .. | .number .. | .string .. => .ok ()
  | .array _ items ending => do passItems items; ending.pass
  | .object _ fields ending => do passFields fields; ending.pass
  | .broken _ place => .error place.passed

/-- Goes past items. -/
def passItems : List Outline → Except Flaw Unit
  | [] => .ok ()
  | x :: rest => do pass x; passItems rest

/-- Goes past fields, whatever their names. -/
def passFields : List (Key × Outline) → Except Flaw Unit
  | [] => .ok ()
  | (_, x) :: rest => do pass x; passFields rest

end

mutual

/-- Reads a value of any shape, nested to at most `levels`. -/
def toJson (levels : Nat) : Outline → Except Flaw Json
  | .null .. => .ok .null
  | .bool b .. => .ok (.bool b)
  | .number n .. => n.map .num
  | .string s .. => s.map .str
  | .array start items ending =>
    match levels with
    | 0 => .error ⟨.tooDeep, start + 1⟩
    | levels + 1 => do
      let xs ← itemsToJson levels items
      ending.read
      return .arr xs
  | .object start fields ending =>
    match levels with
    | 0 => .error ⟨.tooDeep, start + 1⟩
    | levels + 1 => do
      let xs ← fieldsToJson levels [] fields
      ending.read
      return .obj xs
  | .broken _ place => .error place.read

/-- Reads the items of an array. -/
def itemsToJson (levels : Nat) : List Outline → Except Flaw (List Json)
  | [] => .ok []
  | x :: rest => do
    let x ← toJson levels x
    return x :: (← itemsToJson levels rest)

/-- Reads the fields of an object; of two with one name the later counts. -/
def fieldsToJson (levels : Nat) (before : Fields Json) :
    List (Key × Outline) → Except Flaw (Fields Json)
  | [] => .ok before
  | (key, x) :: rest => do
    let name ← key.name
    let x ← toJson levels x
    fieldsToJson levels (before.insert name x) rest

end

end Outline

end Flowgraph.Json
