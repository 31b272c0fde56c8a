/-
  Flowgraph/Definition.lean
  =========================
  **Stored definitions of graphs** — nodes by kind with their parameters, edges, start and
  finish, as they are kept in JSON.  `Definition.decoder` reads one, from a text or from a value,
  and `Definition.toJson` and `Definition.text` write it.
-/
import Flowgraph.Graph.BuildError
import Flowgraph.Plan
import Flowgraph.Retry.Override

namespace Flowgraph

/-! ### Nodes -/

/-- A node of a definition: the kind tells what it does, the parameters how. -/
structure NodeSpec where
  id : String
  kind : String
  label : Option String := none
  params : Json := .null
  retry : Option RetryOverride := none
deriving Inhabited, BEq

namespace NodeSpec

/-- The fields that are set, by name.  `object` makes an object of the fields within. -/
def entries (object : List (String × Json) → Json) (n : NodeSpec) : List (String × Json) :=
  [("id", .str n.id), ("kind", .str n.kind)] ++
  (n.label.map fun label => ("label", Json.str label)).toList ++
  (if n.params.isNull then [] else [("params", n.params)]) ++
  (n.retry.map fun retry => ("retry", object retry.entries)).toList

def toJson (n : NodeSpec) : Json := .object (n.entries .object)

/-- The fields met so far. -/
structure Draft where
  id : Option String := none
  kind : Option String := none
  label : Option (Option String) := none
  params : Option Json := none
  retry : Option (Option RetryOverride) := none

open Json (Decoder Slot required)

/-- The fields of a node; others are passed over. -/
def record : Json.Record Draft NodeSpec where
  name := "NodeSpec"
  slots :=
    [.of "id" true .string (·.id) fun x draft => { draft with id := some x },
     .of "kind" true .string (·.kind) fun x draft => { draft with kind := some x },
     .of "label" false (Decoder.optional .string) (·.label)
        fun x draft => { draft with label := some x },
     .of "params" false .any (·.params) fun x draft => { draft with params := some x },
     .of "retry" false (Decoder.optional RetryOverride.decoder) (·.retry)
        fun x draft => { draft with retry := some x }]
  closed := false
  empty := {}
  finish draft := do
    return {
      id := ← required "id" draft.id
      kind := ← required "kind" draft.kind
      label := draft.label.join
      params := draft.params.getD .null
      retry := draft.retry.join }

def decoder : Decoder NodeSpec := record.decode

end NodeSpec

/-! ### Definitions -/

/-- The definition of a graph. -/
structure Definition where
  start : String
  finish : String
  nodes : List NodeSpec
  edges : List Edge := []
deriving Inhabited, BEq

namespace Definition

/-- The fields, by name.  `object` makes an object of the fields within. -/
def entries (object : List (String × Json) → Json) (d : Definition) : List (String × Json) :=
  [("start", .str d.start), ("end", .str d.finish),
   ("nodes", .arr (d.nodes.map fun n => object (n.entries object))),
   ("edges", .arr (d.edges.map fun e => object e.entries))]

def toJson (d : Definition) : Json := .object (d.entries .object)

/-- The definition as a JSON text, its fields in their own order. -/
def text (d : Definition) : String := (Json.obj (d.entries .obj)).compact

/-- The fields met so far. -/
structure Draft where
  start : Option String := none
  finish : Option String := none
  nodes : Option (List NodeSpec) := none
  edges : Option (List Edge) := none

open Json (Decoder Slot required)

/-- The fields of a definition; others are passed over. -/
def record : Json.Record Draft Definition where
  name := "PipelineDefinition"
  slots :=
    [.of "start" true .string (·.start) fun x draft => { draft with start := some x },
     .of "end" true .string (·.finish) fun x draft => { draft with finish := some x },
     .of "nodes" true (Decoder.list NodeSpec.decoder) (·.nodes)
        fun x draft => { draft with nodes := some x },
     .of "edges" false (Decoder.list Edge.decoder) (·.edges)
        fun x draft => { draft with edges := some x }]
  closed := false
  empty := {}
  finish draft := do
    return {
      start := ← required "start" draft.start
      finish := ← required "end" draft.finish
      nodes := ← required "nodes" draft.nodes
      edges := draft.edges.getD [] }

def decoder : Decoder Definition := record.decode

end Definition

/-! ### Errors -/

/-- Why a definition cannot be compiled. -/
inductive DefinitionError
  | unreadable (error : Json.ReadError)
  | unknownKind (id kind : String)
  | invalidParams (id kind message : String)
  | build (error : BuildError)

def DefinitionError.message : DefinitionError → String
  | unreadable e => "invalid pipeline definition: " ++ e.message
  | unknownKind id kind => "node '" ++ id ++ "': unknown kind '" ++ kind ++ "'"
  | invalidParams id kind m => "node '" ++ id ++ "' (" ++ kind ++ "): invalid params: " ++ m
  | build e => e.message

def NodeSpec.refuseParams (n : NodeSpec) (message : String) : DefinitionError :=
  .invalidParams n.id n.kind message

/-- Reads the parameters of a node; `null` reads like an object without fields. -/
def NodeSpec.readParams {α : Type} (n : NodeSpec) (d : Json.Decoder α) : Except DefinitionError α :=
  let params := if n.params.isNull then .obj [] else n.params
  (d.ofJson params).mapError fun e => n.refuseParams e.message

def Definition.ofText (text : String) : Except DefinitionError Definition :=
  (Definition.decoder.ofText text).mapError .unreadable

end Flowgraph
