/-
  Flowgraph/State.lean
  ====================
  **The state of a run** — named JSON values, handed from node to node.  Two names are reserved:
  `last_node_output` holds what the next node takes as its input, and `outputs` the history of
  every node's outputs, an array under the node's name.

  `recordOutput` is the one operation that writes both.  Whatever else stands where a history
  should be counts as no history when it is looked up, and is replaced when it is written.
-/
import Flowgraph.Json.Decoder

namespace Flowgraph

/-- The state of a run. -/
structure State where
  fields : Fields Json
deriving Inhabited, BEq

namespace State

def lastOutputKey : String := "last_node_output"

def outputsKey : String := "outputs"

/-! ### Named values -/

def empty : State := ⟨[]⟩

def get? (s : State) (key : String) : Option Json := s.fields.get? key

def insert (s : State) (key : String) (value : Json) : State := ⟨s.fields.insert key value⟩

def erase (s : State) (key : String) : State := ⟨s.fields.erase key⟩

def contains (s : State) (key : String) : Bool := s.fields.contains key

theorem get?_insert (s : State) (key key' : String) (value : Json) :
    (s.insert key value).get? key' = if key = key' then some value else s.get? key' :=
  Fields.get?_insert key key' value s.fields

def ofInput (input : Json) : State := empty.insert lastOutputKey input

def toJson (s : State) : Json := .obj s.fields

/-- Reads a state: an object with any fields. -/
def decoder : Json.Decoder State := fun source => return ⟨← Json.Decoder.fields source⟩

/-! ### Input and outputs -/

def lastOutput (s : State) : Option Json := s.get? lastOutputKey

/-- What the next node takes, as text; empty if there is nothing. -/
def inputText (s : State) : String := (s.lastOutput.getD .null).plainText

/-- The history under a name in a value of histories; empty unless it is an array in an
    object. -/
def historyIn (outputs : Option Json) (name : String) : List Json :=
  match outputs with
  | some (.obj byName) =>
    match Fields.get? name byName with
    | some (.arr items) => items
    | _ => []
  | _ => []

/-- The outputs recorded under a name, the oldest first. -/
def outputsOf (s : State) (name : String) : List Json := historyIn (s.get? outputsKey) name

/-- The latest output of the first of the names that has one. -/
def outputFromAny (s : State) (names : List String) : Option Json :=
  names.findSome? fun name => (s.outputsOf name).getLast?

def addOutput (outputs : Option Json) (name : String) (output : Json) : Json :=
  let byName : Fields Json :=
    match outputs with
    | some (.obj byName) => byName
    | _ => []
  .obj (byName.insert name (.arr (historyIn outputs name ++ [output])))

/-- Records an output of a node: it joins the node's history and is the next input. -/
def recordOutput (s : State) (name : String) (output : Json) : State :=
  (s.insert outputsKey (addOutput (s.get? outputsKey) name output)).insert lastOutputKey output

/-! ### What is looked up afterwards -/

theorem historyIn_addOutput (outputs : Option Json) (name name' : String) (output : Json) :
    historyIn (some (addOutput outputs name output)) name' =
      if name = name' then historyIn outputs name ++ [output] else historyIn outputs name' := by
  by_cases h : name = name'
  · subst h
    simp only [addOutput, historyIn, Fields.get?_insert_self, ↓reduceIte]
  · rw [if_neg h]
    unfold addOutput
    simp only [historyIn, Fields.get?_insert_of_ne h]
    cases outputs with
    | none => rfl
    | some j => cases j <;> rfl

/-- A value is taken for the histories if it is stored under their key. -/
theorem outputsOf_insert (s : State) (key name : String) (value : Json) :
    (s.insert key value).outputsOf name =
      if key = outputsKey then historyIn (some value) name else s.outputsOf name := by
  rw [outputsOf, get?_insert]
  by_cases h : key = outputsKey
  · rw [if_pos h, if_pos h]
  · rw [if_neg h, if_neg h, outputsOf]

theorem outputsOf_recordOutput (s : State) (name name' : String) (output : Json) :
    (s.recordOutput name output).outputsOf name' =
      if name = name' then s.outputsOf name ++ [output] else s.outputsOf name' := by
  have hkey : lastOutputKey ≠ outputsKey := by decide
  simp only [outputsOf, recordOutput, get?_insert, hkey, ↓reduceIte, historyIn_addOutput]

/-- Only the two reserved keys are written. -/
theorem get?_recordOutput {key : String} (houtputs : key ≠ outputsKey) (hlast : key ≠ lastOutputKey)
    (s : State) (name : String) (output : Json) :
    (s.recordOutput name output).get? key = s.get? key := by
  simp only [recordOutput, get?_insert, houtputs.symm, hlast.symm, ↓reduceIte]

theorem lastOutput_recordOutput (s : State) (name : String) (output : Json) :
    (s.recordOutput name output).lastOutput = some output := by
  simp only [lastOutput, recordOutput, get?_insert, ↓reduceIte]

end State

end Flowgraph
