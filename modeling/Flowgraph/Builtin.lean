/-
  Flowgraph/Builtin.lean
  ======================
  **The kinds of nodes that every definition may use** — nodes that record an output: the input
  unchanged (`start`, `end`, `passthrough`), a fixed value (`set_value`), a text with the input
  filled in (`template`); and routers that go by a value of the state (`state_key_router`) or by
  words in the input (`keyword_router`).
-/
import Flowgraph.Registry
import Flowgraph.Text.Lowercase
import Flowgraph.Text.Search

namespace Flowgraph.Builtin

open Json (Decoder Slot required)

def steady (f : State → State) : Callable := .ordinary fun _ s => .ok (f s)

/-- A router that does the same at every call. -/
def chooser (f : State → List String → Except String String) : Callable :=
  .router fun _ s incoming =>
    match f s incoming with
    | .ok condition => .ok condition
    | .error message => .failed (.executionFailed message)

/-! ### Nodes -/

def passthrough : Factory := fun n =>
  .ok <| steady fun s => s.recordOutput n.id (s.lastOutput.getD .null)

/-- The parameters of `set_value`: the value, and the name it is stored under besides. -/
structure SetValue where
  value : Json
  key : Option String

/-- The parameters of `set_value` met so far. -/
structure SetValue.Draft where
  value : Option Json := none
  key : Option (Option String) := none

/-- Reads the parameters of `set_value`. -/
def SetValue.record : Json.Record SetValue.Draft SetValue where
  name := "SetValueParams"
  slots :=
    [.of "value" true .any (·.value) fun x draft => { draft with value := some x },
     .of "key" false (Decoder.optional .string) (·.key) fun x draft => { draft with key := some x }]
  closed := true
  empty := {}
  finish draft := do
    return { value := ← required "value" draft.value, key := draft.key.join }

/-- Stores the value under its name, if it has one, and records it as the output. -/
def SetValue.run (p : SetValue) (id : String) (s : State) : State :=
  let s := match p.key with
    | some key => s.insert key p.value
    | none => s
  s.recordOutput id p.value

def setValue : Factory := fun n => do
  let params ← n.readParams SetValue.record.decode
  return steady (params.run n.id)

def inputMark : String := "\x7binput\x7d"

/-- A template with the input text in place of each mark. -/
def fillTemplate (template : String) (s : State) : String :=
  Text.replaceAll template inputMark s.inputText

/-- Reads the parameter of `template`. -/
def templateRecord : Json.Record (Option String) String where
  name := "TemplateParams"
  slots := [.of "template" true .string id fun x _ => some x]
  closed := true
  empty := none
  finish draft := required "template" draft

def template : Factory := fun n => do
  let text ← n.readParams templateRecord.decode
  return steady fun s => s.recordOutput n.id (.str (fillTemplate text s))

/-! ### Routers -/

/-- The parameters of `state_key_router`: the name of a value, and the condition where there is
    none. -/
structure StateKey where
  key : String
  default : Option String

/-- The parameters of `state_key_router` met so far. -/
structure StateKey.Draft where
  key : Option String := none
  default : Option (Option String) := none

/-- Reads the parameters of `state_key_router`. -/
def StateKey.record : Json.Record StateKey.Draft StateKey where
  name := "StateKeyParams"
  slots :=
    [.of "key" true .string (·.key) fun x draft => { draft with key := some x },
     .of "default" false (Decoder.optional .string) (·.default)
        fun x draft => { draft with default := some x }]
  closed := true
  empty := {}
  finish draft := do
    return { key := ← required "key" draft.key, default := draft.default.join }

/-- The text of the value, if there is one that is not `null`, and else the default. -/
def StateKey.choose (p : StateKey) (s : State) : Except String String :=
  match (s.get? p.key).filter (!·.isNull), p.default with
  | some value, _ => .ok value.plainText
  | none, some condition => .ok condition
  | none, none => .error ("state key '" ++ p.key ++ "' is not set")

def stateKeyRouter : Factory := fun n => do
  let params ← n.readParams StateKey.record.decode
  return chooser fun s _ => params.choose s

/-- The parameters of `keyword_router`: the words, the condition where none occurs, and whether
    capital and small letters differ. -/
structure Keywords where
  keywords : List String
  default : Option String
  caseSensitive : Bool

/-- The parameters of `keyword_router` met so far. -/
structure Keywords.Draft where
  keywords : Option (List String) := none
  default : Option (Option String) := none
  caseSensitive : Option Bool := none

/-- Reads the parameters of `keyword_router`. -/
def Keywords.record : Json.Record Keywords.Draft Keywords where
  name := "KeywordParams"
  slots :=
    [.of "keywords" true (Decoder.list .string) (·.keywords)
        fun x draft => { draft with keywords := some x },
     .of "default" false (Decoder.optional .string) (·.default)
        fun x draft => { draft with default := some x },
     .of "case_sensitive" false .bool (·.caseSensitive)
        fun x draft => { draft with caseSensitive := some x }]
  closed := true
  empty := {}
  finish draft := do
    return {
      keywords := ← required "keywords" draft.keywords
      default := draft.default.join
      caseSensitive := draft.caseSensitive.getD false }

/-- The text that is searched: the latest output of the nodes before the router, or else the
    input. -/
def searched (s : State) (incoming : List String) : String :=
  (((s.outputFromAny incoming).or s.lastOutput).getD .null).plainText

/-- A text as it is compared. -/
def Keywords.fold (p : Keywords) (text : String) : String :=
  if p.caseSensitive then text else Text.lowercase text

def Keywords.find? (p : Keywords) (text : String) : Option String :=
  p.keywords.find? fun keyword => Text.contains (p.fold text) (p.fold keyword)

/-- The first keyword that occurs, as it is written in the parameters, and else the default. -/
def Keywords.choose (p : Keywords) (s : State) (incoming : List String) : Except String String :=
  match (p.find? (searched s incoming)).or p.default with
  | some condition => .ok condition
  | none => .error "no keyword matched and no default is set"

def keywordRouter : Factory := fun n => do
  let params ← n.readParams Keywords.record.decode
  if params.keywords.isEmpty ∧ params.default.isNone then
    throw (n.refuseParams "needs at least one keyword or a default")
  return chooser params.choose

/-! ### The registry -/

def kinds : List (String × Factory) :=
  [("start", passthrough), ("end", passthrough), ("passthrough", passthrough),
   ("set_value", setValue), ("template", template), ("state_key_router", stateKeyRouter),
   ("keyword_router", keywordRouter)]

def registry : Registry := ⟨Fields.ofList kinds⟩

end Flowgraph.Builtin
