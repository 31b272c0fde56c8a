/-
  Flowgraph/Registry.lean
  =======================
  **Kinds of nodes** — a registry holds a factory for each kind, which makes a node of that kind
  from its entry in a definition.  `Definition.compile` makes every node, in order, and then
  builds the plan of the graph.
-/
import Flowgraph.Definition
import Flowgraph.Graph.Build
import Flowgraph.Log

namespace Flowgraph

/-- Makes what a node does from its entry in a definition. -/
abbrev Factory := NodeSpec → Except DefinitionError Callable

/-- The factories by the kinds they make. -/
structure Registry where
  factories : Fields Factory

namespace Registry

def empty : Registry := ⟨[]⟩

/-- Puts a factory under a kind, in place of an earlier one. -/
def register (r : Registry) (kind : String) (factory : Factory) : Registry :=
  ⟨r.factories.insert kind factory⟩

def unregister (r : Registry) (kind : String) : Registry := ⟨r.factories.erase kind⟩

def contains (r : Registry) (kind : String) : Bool := r.factories.contains kind

/-- The kinds, in order. -/
def kinds (r : Registry) : List String := r.factories.keys

def describe (r : Registry) : String :=
  "NodeRegistry \x7b kinds: [" ++ ", ".intercalate (r.kinds.map Text.quoted) ++ "] \x7d"

def create (r : Registry) (n : NodeSpec) : Except DefinitionError Callable :=
  match r.factories.get? n.kind with
  | some factory => factory n
  | none => .error (.unknownKind n.id n.kind)

end Registry

/-! ### Compiling definitions -/

/-- The node of an entry.  Its label is its id unless it has one of its own. -/
def NodeSpec.toNode (n : NodeSpec) (policy : RetryPolicy) (callable : Callable) : Node where
  id := n.id
  label := n.label.getD n.id
  callable := callable
  policy := n.retry.map (·.apply policy)

/-- Makes nodes one after the other, up to the first that cannot be made.  Each one made is
    logged. -/
def Registry.createNodes (r : Registry) (policy : RetryPolicy) :
    List NodeSpec → List LogEvent × Except DefinitionError (List Node)
  | [] => ([], .ok [])
  | n :: rest =>
    match r.create n with
    | .error e => ([], .error e)
    | .ok callable =>
      let (log, nodes) := r.createNodes policy rest
      (.nodeCreated n.id n.kind :: log, nodes.map (n.toNode policy callable :: ·))

/-- The plan of a definition, or why there is none, with the log of its making.  The policy is
    that of the nodes, each with its own settings applied. -/
def Definition.compile (d : Definition) (r : Registry) (policy : RetryPolicy) :
    List LogEvent × Except DefinitionError Plan :=
  let (log, nodes) := r.createNodes policy d.nodes
  (log, do
    let graph : Graph := ⟨← nodes, d.edges, d.start, d.finish⟩
    (graph.build policy).mapError .build)

end Flowgraph
