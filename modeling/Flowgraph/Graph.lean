/-
  Flowgraph/Graph.lean
  ====================
  **Graphs of nodes** — nodes that work on the state and routers that choose a branch, joined by
  edges.  A graph is what is declared; `Graph.build` checks it and gives the `Plan` that runs.

  What a node does is a function of the number of earlier calls of it and of its input, so any
  sequence of outcomes is the behaviour of some node.
-/
import Flowgraph.Json.Decoder
import Flowgraph.Retry.Policy
import Flowgraph.State

namespace Flowgraph

/-- What a node does when it is called.  The number counts the earlier calls. -/
inductive Callable
  /-- Takes a state and gives the next. -/
  | ordinary (run : Nat → State → Outcome State)
  /-- Reads a state, and the nodes with an edge to the router, and names a condition. -/
  | router (choose : Nat → State → List String → Outcome String)

def Callable.isRouter : Callable → Bool
  | ordinary _ => false
  | router _ => true

/-- A node of a graph. -/
structure Node where
  id : String
  /-- The name by which reports call the node. -/
  label : String
  callable : Callable
  /-- The node's own policy, if it has one. -/
  policy : Option RetryPolicy := none

def Node.isRouter (n : Node) : Bool := n.callable.isRouter

/-- An edge; one that leaves a router has the condition under which it is taken. -/
structure Edge where
  source : String
  target : String
  condition : Option String := none
deriving DecidableEq, Repr, Inhabited

/-- Nodes and edges as declared, with the nodes at which runs start and finish. -/
structure Graph where
  nodes : List Node
  edges : List Edge
  start : String
  finish : String

namespace Graph

/-! ### Declaring a graph piece by piece -/

def between (start finish : String) : Graph := ⟨[], [], start, finish⟩

def addNode (g : Graph) (n : Node) : Graph := { g with nodes := g.nodes ++ [n] }

def addEdge (g : Graph) (e : Edge) : Graph := { g with edges := g.edges ++ [e] }

/-! ### Looking at a graph -/

/-- The ids of the nodes, in the order of their declaration. -/
def ids (g : Graph) : List String := g.nodes.map (·.id)

def node? (g : Graph) (id : String) : Option Node := g.nodes.find? (·.id = id)

/-- The edges that leave a node, in the order of their declaration. -/
def outgoing (g : Graph) (id : String) : List Edge := g.edges.filter (·.source = id)

/-- The nodes with an edge to a node, each once, in the order of their first edge. -/
def feeding (g : Graph) (id : String) : List String :=
  ((g.edges.filter (·.target = id)).map (·.source)).eraseDups

end Graph

/-! ### Edges as JSON -/

namespace Edge

/-- The fields of an edge, by name. -/
def entries (e : Edge) : List (String × Json) :=
  [("source", .str e.source), ("target", .str e.target)] ++
    (e.condition.map fun c => ("condition", Json.str c)).toList

/-- The fields met so far. -/
structure Draft where
  source : Option String := none
  target : Option String := none
  condition : Option (Option String) := none

open Json (Decoder Slot required)

/-- The fields of an edge; others are passed over. -/
def record : Json.Record Draft Edge where
  name := "Edge"
  slots :=
    [.of "source" true .string (·.source) fun x draft => { draft with source := some x },
     .of "target" true .string (·.target) fun x draft => { draft with target := some x },
     .of "condition" false (Decoder.optional .string) (·.condition)
        fun x draft => { draft with condition := some x }]
  closed := false
  empty := {}
  finish draft := do
    return {
      source := ← required "source" draft.source
      target := ← required "target" draft.target
      condition := draft.condition.join }

def decoder : Decoder Edge := record.decode

end Edge

end Flowgraph
