/-
  Flowgraph/RouteTable.lean
  =========================
  **Route tables** — the conditions a router may name and the node each leads to, in the order
  in which they were added.  A condition is added once; a second route for it is refused.
-/
namespace Flowgraph

/-- The routes of a router. -/
structure RouteTable where
  routes : List (String × String)
deriving DecidableEq, Repr, Inhabited

namespace RouteTable

def empty : RouteTable := ⟨[]⟩

def get? (t : RouteTable) (condition : String) : Option String :=
  (t.routes.find? fun route => route.1 = condition).map (·.2)

/-- The conditions, in order. -/
def conditions (t : RouteTable) : List String := t.routes.map (·.1)

/-- The nodes led to, in order of their conditions. -/
def targets (t : RouteTable) : List String := t.routes.map (·.2)

def size (t : RouteTable) : Nat := t.routes.length

def isEmpty (t : RouteTable) : Bool := t.routes.isEmpty

/-- Adds a route, unless the condition has one already. -/
def insert? (t : RouteTable) (condition target : String) : Option RouteTable :=
  if (t.get? condition).isSome then none else some ⟨t.routes ++ [(condition, target)]⟩

/-- The table after an attempt to add a route, and whether it was added. -/
def insert (t : RouteTable) (condition target : String) : Bool × RouteTable :=
  match t.insert? condition target with
  | some t' => (true, t')
  | none => (false, t)

end RouteTable

end Flowgraph
