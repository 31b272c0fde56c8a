/-
  Flowgraph/Failure.lean
  ======================
  **What can go wrong in a run** — the error a node reports (`NodeError`), the outcome of one
  call of a node (`Outcome`), and the error a run ends with (`RunError`), which names the node it
  ended at.
-/
namespace Flowgraph

/-! ### Nodes -/

/-- An error raised by an external provider, kept as it is: where it comes from and what it
    says. -/
structure ProviderError where
  origin : String
  text : String
deriving DecidableEq, Repr

/-- Why a call of a node failed. -/
inductive NodeError
  | executionFailed (message : String)
  | rateLimited (message : String)
  | provider (error : ProviderError)
deriving DecidableEq, Repr

namespace NodeError

def message : NodeError → String
  | executionFailed m => "execution failed: " ++ m
  | rateLimited m => "rate limited: " ++ m
  | provider e => e.text

def isRateLimited : NodeError → Bool
  | rateLimited _ => true
  | _ => false

end NodeError

/-- What a call came to: a value, an error, or a panic with its text, if it has one. -/
inductive Outcome (α : Type)
  | ok (value : α)
  | failed (error : NodeError)
  | panicked (text : Option String)
deriving Repr

/-- What a panic carries: a text that stands in the program, one made on the way, or no text. -/
inductive Payload
  | static (text : String)
  | owned (text : String)
  | other

def Payload.text? : Payload → Option String
  | static text | owned text => some text
  | other => none

/-- How a panic of a node is reported. -/
def panicMessage (text : Option String) : String :=
  "node panicked: " ++ text.getD "unknown panic payload"

/-! ### Runs -/

/-- Why a run, or a routing decision, failed. -/
inductive RunError
  /-- A node failed for good after so many calls. -/
  | node (id : String) (attempts : Nat) (error : NodeError)
  /-- A router named a condition that it has no route for. -/
  | routing (id condition : String)
  | unknownNode (id : String)
  | notARouter (id : String)
  /-- The run took more steps than there are nodes. -/
  | stepLimit (id : String) (limit : Nat)
deriving DecidableEq, Repr

namespace RunError

def nodeId : RunError → String
  | node id _ _ | routing id _ | unknownNode id | notARouter id | stepLimit id _ => id

def attempts : RunError → Nat
  | node _ n _ => n
  | _ => 1

/-- The error of the node, when it is a node that failed. -/
def nodeError : RunError → Option NodeError
  | node _ _ e => some e
  | _ => none

def message : RunError → String
  | node id n e =>
    "node '" ++ id ++ "' failed after " ++ toString n ++ " attempt(s): " ++ e.message
  | routing id condition =>
    "router '" ++ id ++ "' has no route for condition '" ++ condition ++ "'"
  | unknownNode id => "unknown node: " ++ id
  | notARouter id => "node '" ++ id ++ "' is not a router"
  | stepLimit id limit =>
    "step limit of " ++ toString limit ++ " exceeded at node '" ++ id ++ "'"

end RunError

end Flowgraph
