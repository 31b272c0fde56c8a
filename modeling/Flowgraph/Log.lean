/-
  Flowgraph/Log.lean
  ==================
  **The log of a run** — the events reported while a graph is compiled and run, each with its
  level, its message and its named values.
-/
import Flowgraph.Json
import Flowgraph.Retry.Execution

namespace Flowgraph

/-- How much an event matters. -/
inductive Level
  | debug
  | info
  | warn
  | error
deriving DecidableEq, Repr

/-- An event of the log. -/
inductive LogEvent
  | nodeCreated (id kind : String)
  | compiled (start : String) (nodes : Nat) (maxAttempts : Nat)
  | runStarted (start : String)
  | runCompleted (steps : Nat)
  | nodeStarted (id label : String)
  /-- A node is done; the run goes on to another, unless it was the finish. -/
  | nodeCompleted (id : String) (next : Option String)
  | routeSelected (id condition target : String)
  /-- A node failed and will be called again. -/
  | retrying (id : String) (retry : Retry) (budget : Nat)
  | runFailed (error : RunError)
  | runAborted (id message : String)

namespace LogEvent

def level : LogEvent → Level
  | nodeCreated .. | compiled .. | nodeStarted .. | nodeCompleted .. | routeSelected .. => .debug
  | runStarted .. | runCompleted .. => .info
  | retrying .. => .warn
  | runFailed .. | runAborted .. => .error

def message : LogEvent → String
  | nodeCreated .. => "node created from definition"
  | compiled .. => "pipeline compiled"
  | runStarted .. => "Starting pipeline execution"
  | runCompleted .. => "Pipeline execution complete"
  | nodeStarted .. => "Starting node execution"
  | nodeCompleted .. => "Node execution complete"
  | routeSelected .. => "Router selected route"
  | retrying .. => "Retrying node after retryable error"
  | runFailed .. => "Pipeline execution error"
  | runAborted _ message => message

def fields : LogEvent → List (String × Json)
  | nodeCreated id kind => [("node_id", .str id), ("kind", .str kind)]
  | compiled start nodes maxAttempts =>
    [("start", .str start), ("nodes", .int nodes), ("max_attempts", .int maxAttempts)]
  | runStarted start => [("start", .str start)]
  | runCompleted steps => [("steps", .int steps)]
  | nodeStarted id label => [("node_id", .str id), ("label", .str label)]
  | nodeCompleted id next =>
    ("node_id", .str id) :: (next.map fun next => ("next", Json.str next)).toList
  | routeSelected id condition target =>
    [("node_id", .str id), ("condition", .str condition), ("target", .str target)]
  | retrying id retry budget =>
    [("node_id", .str id), ("attempt", .int retry.attempt), ("max_attempts", .int budget),
     ("delay_ms", .int (retry.delay.millis % UInt64.size : Nat)), ("error", .str retry.error.message)]
  | runFailed error => [("node_id", .str error.nodeId), ("error", .str error.message)]
  | runAborted id _ => [("node_id", .str id)]

end LogEvent

end Flowgraph
