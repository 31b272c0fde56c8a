/-
  Flowgraph/Json.lean
  ===================
  **JSON values** — integers and other numbers are kept apart, and the fields of an object are
  kept in the order of their names.
-/
import Flowgraph.Binary64.Decimal
import Flowgraph.Fields

namespace Flowgraph

/-- A number of a JSON text: a whole number that was written as one, or any other. -/
inductive Json.Number
  | int (i : Int)
  | float (x : Finite64)
deriving DecidableEq

/-- A JSON value. -/
inductive Json
  | null
  | bool (b : Bool)
  | num (n : Json.Number)
  | str (s : String)
  | arr (items : List Json)
  | obj (fields : List (String × Json))
deriving Inhabited, BEq

namespace Json

def int (i : Int) : Json := .num (.int i)

/-- A number that is finite.  JSON has none of the others, and `null` stands for them. -/
def ofBinary64 (x : Binary64) : Json :=
  match x.toFinite? with
  | some x => .num (.float x)
  | none => .null

/-- The object with the given fields, put in order. -/
def object (fields : List (String × Json)) : Json := .obj (Fields.ofList fields)

/-- Whether the value is `null`. -/
def isNull : Json → Bool
  | .null => true
  | _ => false

/-- The nearest binary64 number. -/
def Number.toBinary64 : Number → Binary64
  | .int i => Binary64.ofInt i
  | .float x => .finite x

end Json

end Flowgraph
