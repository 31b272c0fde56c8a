/-
  Flowgraph/Json/Source.lean
  ==========================
  **Where a value is read from** — the outline of a text, or a JSON value that is there already.
  Both are looked at one layer at a time (`Source.head`), so one reader serves for both.  A text
  may nest arrays and objects to a limit, a value to any depth.
-/
import Flowgraph.Json.Outline

namespace Flowgraph.Json

/-- What a value is read from. -/
inductive Source
  /-- A part of a text, with the number of levels that may be nested in it. -/
  | written (levels : Nat) (outline : Outline)
  | plain (value : Json)

/-- The items of an array, to be read one after the other. -/
structure Items where
  items : List Source
  /-- The check after the last item. -/
  close : Except Fault Unit
  /-- The check for a reader who wants no more than `count` items, all of which are there. -/
  closeAt (count : Nat) : Except Fault Unit
  /-- Where an array of the wrong length is noticed. -/
  stop : Nat

/-- A field of an object, to be read. -/
structure Member where
  name : Except Fault String
  /-- Where a name is refused. -/
  after : Nat
  value : Source

/-- The fields of an object, to be read one after the other. -/
structure Members where
  members : List Member
  /-- The check after the last field. -/
  close : Except Fault Unit
  /-- Where a missing field is noticed. -/
  stop : Nat

/-- The outermost layer of a value.  `stop` is where a value of the wrong kind is noticed; an
    array or an object may be nested too deeply to be opened. -/
inductive Head
  | null (stop : Nat)
  | bool (b : Bool) (stop : Nat)
  | num (n : Number) (stop : Nat)
  | str (s : String) (stop : Nat)
  | list (start : Nat) (content : Except Fault Items)
  | object (start : Nat) (content : Except Fault Members)

namespace Source

def flawed {α : Type} (f : Flaw) : Except Fault α := .error f.toFault

def writtenItems (levels : Nat) (items : List Outline) (ending : Ending) : Items where
  items := items.map (written levels)
  close := ending.read.mapError Flaw.toFault
  closeAt count :=
    match items[count]?, ending with
    | some x, _ => flawed ⟨.trailingCharacters, x.start + 1⟩
    | none, .closed _ => .ok ()
    | none, .broken _ surplus => flawed surplus
  stop := match ending with
    | .closed stop => stop
    | .broken place _ => place.read.offset

def plainItems (items : List Json) : Items where
  items := items.map plain
  close := .ok ()
  closeAt count :=
    if items.length ≤ count then .ok ()
    else .error ⟨.shape (.wrongLength items.length "fewer elements in array"), 0⟩
  stop := 0

def writtenMembers (levels : Nat) (fields : List (Key × Outline)) (ending : Ending) :
    Members where
  members := fields.map fun f =>
    ⟨f.1.name.mapError Flaw.toFault, f.1.after, written levels f.2⟩
  close := ending.read.mapError Flaw.toFault
  stop := match ending with
    | .closed stop => stop
    | .broken place _ => place.read.offset

def plainMembers (fields : List (String × Json)) : Members where
  members := fields.map fun f => ⟨.ok f.1, 0, plain f.2⟩
  close := .ok ()
  stop := 0

/-- The outermost layer.  A scalar is read whole, so its own faults come first. -/
def head : Source → Except Fault Head
  | plain .null => .ok (.null 0)
  | plain (.bool b) => .ok (.bool b 0)
  | plain (.num n) => .ok (.num n 0)
  | plain (.str s) => .ok (.str s 0)
  | plain (.arr items) => .ok (.list 0 (.ok (plainItems items)))
  | plain (.obj fields) => .ok (.object 0 (.ok (plainMembers fields)))
  | written _ (.null _ stop) => .ok (.null stop)
  | written _ (.bool b _ stop) => .ok (.bool b stop)
  | written _ (.number n _ stop) => (n.map (.num · stop)).mapError Flaw.toFault
  | written _ (.string s _ stop) => (s.map (.str · stop)).mapError Flaw.toFault
  | written levels (.array start items ending) =>
    .ok (.list start (match levels with
      | 0 => flawed ⟨.tooDeep, start + 1⟩
      | levels + 1 => .ok (writtenItems levels items ending)))
  | written levels (.object start fields ending) =>
    .ok (.object start (match levels with
      | 0 => flawed ⟨.tooDeep, start + 1⟩
      | levels + 1 => .ok (writtenMembers levels fields ending)))
  | written _ (.broken _ place) => flawed place.read

/-- The value, of whatever shape. -/
def toJson : Source → Except Fault Json
  | plain j => .ok j
  | written levels o => (o.toJson levels).mapError Flaw.toFault

def pass : Source → Except Fault Unit
  | plain _ => .ok ()
  | written _ o => o.pass.mapError Flaw.toFault

end Source

namespace Head

def found : Head → Found
  | null _ => .null
  | bool b _ => .bool b
  | num n _ => .num n
  | str s _ => .str s
  | list .. => .list
  | object .. => .object

/-- Where a layer of the wrong kind is noticed: after a scalar, before a bracket. -/
def place : Head → Nat
  | null stop | bool _ stop | num _ stop | str _ stop => stop
  | list start _ | object start _ => start

def refuse {α : Type} (h : Head) (expected : String) : Except Fault α :=
  .error ⟨.shape (.wrongKind h.found expected), h.place⟩

end Head

end Flowgraph.Json
