/-
  Flowgraph/Plan.lean
  ===================
  **Plans** — what is left of a graph once it is known to be sound: a step for each node, with
  its label, its policy, and where it leads.
-/
import Flowgraph.Graph
import Flowgraph.RouteTable
import Flowgraph.Text.Quoted

namespace Flowgraph

/-- What a step does, and where it leads. -/
inductive Action
  /-- Runs a node and goes on to the next, if there is one. -/
  | work (run : Nat → State → Outcome State) (next : Option String)
  /-- Asks a router and goes on where its routes lead.  `incoming` holds the nodes with an edge
      to it. -/
  | branch (choose : Nat → State → List String → Outcome String) (routes : RouteTable)
      (incoming : List String)

namespace Action

def routes? : Action → Option RouteTable
  | work .. => none
  | branch _ routes _ => some routes

/-- The nodes with an edge to a router. -/
def incoming? : Action → Option (List String)
  | work .. => none
  | branch _ _ incoming => some incoming

def targets : Action → List String
  | work _ next => next.toList
  | branch _ routes _ => routes.targets

end Action

/-- A node ready to run. -/
structure Step where
  label : String
  action : Action
  policy : RetryPolicy

/-- The steps of a graph by the ids of its nodes, in the order of their declaration. -/
structure Plan where
  steps : List (String × Step)
  start : String
  finish : String

namespace Plan

def step? (p : Plan) (id : String) : Option Step :=
  (p.steps.find? fun entry => entry.1 = id).map (·.2)

def size (p : Plan) : Nat := p.steps.length

def contains (p : Plan) (id : String) : Bool := (p.step? id).isSome

def label? (p : Plan) (id : String) : Option String := (p.step? id).map (·.label)

def policy? (p : Plan) (id : String) : Option RetryPolicy := (p.step? id).map (·.policy)

/-- The routes of a router; nothing for another node. -/
def routes? (p : Plan) (id : String) : Option RouteTable := (p.step? id).bind (·.action.routes?)

/-- The nodes with an edge to a router; nothing for another node. -/
def incoming? (p : Plan) (id : String) : Option (List String) :=
  (p.step? id).bind (·.action.incoming?)

def isRouter (p : Plan) (id : String) : Bool := (p.routes? id).isSome

def successors (p : Plan) (id : String) : List String :=
  match p.step? id with
  | some step => step.action.targets
  | none => []

def describe (p : Plan) : String :=
  "CompiledPipeline \x7b start: " ++ Text.quoted p.start ++ ", end: " ++ Text.quoted p.finish ++
    ", node_count: " ++ toString p.size ++ " \x7d"

end Plan

end Flowgraph
