/-
  Flowgraph/Graph/Build.lean
  ==========================
  **Building a plan** — `Graph.build` checks a graph and makes its plan, or tells what is wrong.

  The checks come in this order: the ids are distinct; start and finish are nodes; each edge, in
  turn, joins nodes and has a condition exactly if it leaves a router; there is no cycle; the
  finish, and then every node, can be reached from the start; and each node, in turn, has the
  edges its kind asks for.
-/
import Flowgraph.Graph.BuildError
import Flowgraph.Graph.Search
import Flowgraph.Plan

namespace Flowgraph

/-- The first of the ids that stands for the second time. -/
def firstRepeated (before : List String) : List String → Option String
  | [] => none
  | id :: rest => if id ∈ before then some id else firstRepeated (id :: before) rest

namespace Graph

/-! ### The checks -/

def links (g : Graph) : Links := g.edges.map fun e => (e.source, e.target)

/-- The ids are distinct, and start and finish among them. -/
def checkNodes (g : Graph) : Except BuildError Unit :=
  match firstRepeated [] g.ids with
  | some id => .error (.duplicateNode id)
  | none =>
    if g.start ∉ g.ids then .error (.nodeNotFound g.start)
    else if g.finish ∉ g.ids then .error (.nodeNotFound g.finish)
    else .ok ()

/-- The edge joins nodes, and has a condition exactly if it leaves a router. -/
def checkEdge (g : Graph) (e : Edge) : Except BuildError Unit :=
  match g.node? e.source with
  | none => .error (.nodeNotFound e.source)
  | some source =>
    if e.target ∉ g.ids then .error (.nodeNotFound e.target)
    else
      match source.isRouter, e.condition with
      | true, none => .error (.missingCondition e.source e.target)
      | false, some c => .error (.unexpectedCondition e.source e.target c)
      | _, _ => .ok ()

/-- Each edge in turn passes its check. -/
def checkEdges (g : Graph) : Except BuildError Unit := g.edges.forM g.checkEdge

def checkAcyclic (g : Graph) : Except BuildError Unit :=
  match g.links.findCycle g.ids with
  | some id => .error (.cycle id)
  | none => .ok ()

/-- The finish and every node can be reached from the start. -/
def checkReach (g : Graph) : Except BuildError Unit :=
  let reached := g.links.reachableFrom g.start
  if g.finish ∉ reached then .error (.unreachableFinish g.start g.finish)
  else
    match g.ids.find? (· ∉ reached) with
    | some id => .error (.orphan id)
    | none => .ok ()

/-! ### The steps -/

/-- The table of a router's routes, one to each edge. -/
def routesOf (router : String) (table : RouteTable) : List Edge → Except BuildError RouteTable
  | [] => .ok table
  | e :: rest =>
    let condition := e.condition.getD ""
    match table.insert? condition e.target with
    | some table => routesOf router table rest
    | none => .error (.duplicateRoute router condition)

/-- What the step of a node does: the finish has no edge, a router one to each condition, and any
    other node a single one. -/
def actionOf (g : Graph) (n : Node) : Except BuildError Action :=
  let out := g.outgoing n.id
  if n.id = g.finish then
    if !out.isEmpty then .error (.finishHasSuccessors n.id)
    else
      match n.callable with
      | .ordinary run => .ok (.work run none)
      | .router _ => .error (.routerWithoutRoutes n.id)
  else
    match n.callable, out with
    | .ordinary _, [] => .error (.deadEnd n.id)
    | .ordinary run, [e] => .ok (.work run (some e.target))
    | .ordinary _, _ => .error (.ambiguousSuccessor n.id)
    | .router _, [] => .error (.routerWithoutRoutes n.id)
    | .router choose, out => do
      let routes ← routesOf n.id .empty out
      return .branch choose routes (g.feeding n.id)

/-- The step of a node, under its own policy or the given one. -/
def stepOf (g : Graph) (policy : RetryPolicy) (n : Node) : Except BuildError (String × Step) := do
  let action ← g.actionOf n
  return (n.id, ⟨n.label, action, n.policy.getD policy⟩)

/-- Checks a graph and makes its plan.  The policy is that of the nodes without their own. -/
def build (g : Graph) (policy : RetryPolicy) : Except BuildError Plan := do
  g.checkNodes
  g.checkEdges
  g.checkAcyclic
  g.checkReach
  let steps ← g.nodes.mapM (g.stepOf policy)
  return ⟨steps, g.start, g.finish⟩

end Graph

end Flowgraph
