/-
  Flowgraph/Graph/BuildError.lean
  ===============================
  **Why a graph cannot be run** — what is wrong with a set of nodes and edges, with the node it
  is about.
-/
namespace Flowgraph

/-- What is wrong with a graph. -/
inductive BuildError
  | duplicateNode (id : String)
  /-- The start, the finish or the end of an edge is no node. -/
  | nodeNotFound (id : String)
  | missingCondition (source target : String)
  | unexpectedCondition (source target condition : String)
  | duplicateRoute (router condition : String)
  /-- A way leads from the node back to it. -/
  | cycle (id : String)
  | unreachableFinish (start finish : String)
  | orphan (id : String)
  | routerWithoutRoutes (id : String)
  /-- More than one edge leaves the node, which is no router. -/
  | ambiguousSuccessor (id : String)
  /-- No edge leaves the node, which is not the finish. -/
  | deadEnd (id : String)
  | finishHasSuccessors (id : String)
deriving DecidableEq, Repr

namespace BuildError

def nodeId : BuildError → String
  | duplicateNode id | nodeNotFound id | cycle id | orphan id | routerWithoutRoutes id
  | ambiguousSuccessor id | deadEnd id | finishHasSuccessors id => id
  | missingCondition source _ | unexpectedCondition source _ _ => source
  | duplicateRoute router _ => router
  | unreachableFinish _ finish => finish

def message : BuildError → String
  | duplicateNode id => "duplicate node id: " ++ id
  | nodeNotFound id => "node not found: " ++ id
  | missingCondition s t =>
    "edge " ++ s ++ " -> " ++ t ++ " leaves router '" ++ s ++ "' without a condition label"
  | unexpectedCondition s t c =>
    "edge " ++ s ++ " -> " ++ t ++ " has condition '" ++ c ++ "' but '" ++ s ++ "' is not a router"
  | duplicateRoute r c => "router '" ++ r ++ "' has more than one route for condition '" ++ c ++ "'"
  | cycle id => "cycle detected at node: " ++ id
  | unreachableFinish s f =>
    "end node '" ++ f ++ "' is not reachable from start node '" ++ s ++ "'"
  | orphan id => "node '" ++ id ++ "' is not reachable from the start node"
  | routerWithoutRoutes id => "router '" ++ id ++ "' has no outgoing edges"
  | ambiguousSuccessor id =>
    "node '" ++ id ++ "' has more than one successor; only routers may branch"
  | deadEnd id => "node '" ++ id ++ "' has no successor and is not the end node"
  | finishHasSuccessors id => "end node '" ++ id ++ "' must not have outgoing edges"

end BuildError

end Flowgraph
