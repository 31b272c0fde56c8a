/-
  Flowgraph/Run.lean
  ==================
  **Running a plan** — from the start a run goes from step to step until the finish is done: an
  ordinary node gives the next state and leads to its only successor, a router leaves the state
  as it is and leads where its table sends the condition it names.

  `Plan.runFrom` is the loop.  `Plan.invoke` gives what a run comes to, `Plan.stream` the events
  on the way, and `Plan.route` asks a single router.
-/
import Flowgraph.Log
import Flowgraph.Plan

namespace Flowgraph

/-! ### What a run depends on and what it gives -/

/-- What carries over from run to run: how often each node was called.  `factor` gives the factor
    drawn for the wait after each call of a node, the calls counted from the first run on. -/
structure Session where
  counts : Fields Nat
  factor : String → Nat → Binary64

namespace Session

/-- The session before any call, in which waits keep their length. -/
def fresh : Session := ⟨[], fun _ _ => 1⟩

def calls (s : Session) (id : String) : Nat := (s.counts.get? id).getD 0

def addCalls (s : Session) (id : String) (n : Nat) : Session :=
  { s with counts := s.counts.insert id (s.calls id + n) }

@[simp] theorem calls_fresh (id : String) : fresh.calls id = 0 := rfl

theorem calls_addCalls (s : Session) (id id' : String) (n : Nat) :
    (s.addCalls id n).calls id' = if id' = id then s.calls id' + n else s.calls id' := by
  unfold calls addCalls
  rw [Fields.get?_insert]
  split
  · next h => simp [h, calls]
  · next h => rw [if_neg (Ne.symm h)]

theorem addCalls_addCalls (s : Session) (id : String) (m n : Nat) :
    (s.addCalls id m).addCalls id n = s.addCalls id (m + n) := by
  have hcalls : (s.addCalls id m).calls id = s.calls id + m := by rw [calls_addCalls, if_pos rfl]
  unfold addCalls at hcalls ⊢
  rw [hcalls, Fields.insert_insert, Nat.add_assoc]

end Session

/-- Which events a stream carries besides failures. -/
structure Modes where
  /-- The state after each ordinary node. -/
  values : Bool := false
  /-- The state after each ordinary node, with the node. -/
  updates : Bool := false
  /-- Each decision of a router. -/
  routes : Bool := false
deriving DecidableEq, Repr, Inhabited

/-- An event of a stream. -/
inductive StreamEvent
  | values (state : State)
  | updates (node : String) (state : State)
  | route (node condition target : String)
  | failed (node message : String)
deriving BEq

/-- How a run ends. -/
inductive Run.Ending
  /-- The finish was done after so many steps. -/
  | completed (state : State) (steps : Nat)
  | failed (error : RunError)
  | panicked (node : String) (text : Option String)

/-- A run: its log, its events, the session after it, and how it ended. -/
structure Run where
  log : List LogEvent
  events : List StreamEvent
  session : Session
  ending : Run.Ending

def Run.after (log : List LogEvent) (events : List StreamEvent) (r : Run) : Run :=
  { r with log := log ++ r.log, events := events ++ r.events }

/-- A router's decision: the condition it named and the node that leads to. -/
structure Decision where
  condition : String
  target : String
deriving DecidableEq, Repr

/-! ### Steps -/

/-- The calls of a node under a policy. -/
def Session.execute {α : Type} (s : Session) (id : String) (policy : RetryPolicy)
    (call : Nat → Outcome α) : Execution α :=
  policy.execute (fun n => s.factor id (s.calls id + n)) fun n => call (s.calls id + (n - 1))

def Execution.log {α : Type} (e : Execution α) (id : String) (policy : RetryPolicy) :
    List LogEvent :=
  e.retries.map fun retry => .retrying id retry policy.budget

/-- What came of a step: a value, or the end of the run. -/
inductive StepResult (α : Type)
  | ok (value : α)
  | failed (error : RunError)
  | panicked (text : Option String)

def Execution.result {α : Type} (e : Execution α) (id : String) : StepResult α :=
  match e.last with
  | .ok value => .ok value
  | .failed error => .failed (.node id e.calls error)
  | .panicked text => .panicked text

def resolve (id : String) (routes : RouteTable) :
    StepResult String → List LogEvent × StepResult Decision
  | .ok condition =>
    match routes.get? condition with
    | some target => ([.routeSelected id condition target], .ok ⟨condition, target⟩)
    | none => ([], .failed (.routing id condition))
  | .failed error => ([], .failed error)
  | .panicked text => ([], .panicked text)

/-- Asks a router under its policy: the log, the session afterwards, and the decision. -/
def dispatch (session : Session) (id : String) (policy : RetryPolicy)
    (choose : Nat → State → List String → Outcome String) (routes : RouteTable)
    (incoming : List String) (state : State) : List LogEvent × Session × StepResult Decision :=
  let execution := session.execute id policy fun n => choose n state incoming
  let (log, result) := resolve id routes (execution.result id)
  (execution.log id policy ++ log, session.addCalls id execution.calls, result)

def Modes.update (modes : Modes) (id : String) (state : State) : List StreamEvent :=
  (if modes.values then [.values state] else []) ++
    (if modes.updates then [.updates id state] else [])

def Modes.decision (modes : Modes) (id : String) (d : Decision) : List StreamEvent :=
  if modes.routes then [.route id d.condition d.target] else []

/-- What a step gives that was completed: the events after it, the state, and where it leads. -/
structure Advance where
  events : List StreamEvent
  state : State
  next : Option String

def StepResult.map {α β : Type} (f : α → β) : StepResult α → StepResult β
  | .ok value => .ok (f value)
  | .failed error => .failed error
  | .panicked text => .panicked text

/-- Performs the step of a node on a state: the log, the session afterwards, and what it gives. -/
def Step.perform (step : Step) (modes : Modes) (session : Session) (id : String) (state : State) :
    List LogEvent × Session × StepResult Advance :=
  match step.action with
  | .work run next =>
    let execution := session.execute id step.policy fun n => run n state
    (execution.log id step.policy, session.addCalls id execution.calls,
      (execution.result id).map fun state => ⟨modes.update id state, state, next⟩)
  | .branch choose routes incoming =>
    let (log, session, result) := dispatch session id step.policy choose routes incoming state
    (log, session, result.map fun d => ⟨modes.decision id d, state, some d.target⟩)

namespace Plan

/-! ### The loop -/

/-- Where a run goes on after a node: nowhere after the finish. -/
def goesOn (p : Plan) (id : String) (next : Option String) : Option String :=
  if id = p.finish then none else next

/-- Goes on at a node after `taken` steps.  The first number is that of the steps still allowed. -/
def runFrom (p : Plan) (modes : Modes) : Nat → Nat → Session → String → State → Run
  | 0, _, session, id, _ => ⟨[], [], session, .failed (.stepLimit id p.size)⟩
  | allowed + 1, taken, session, id, state =>
    match p.step? id with
    | none => ⟨[], [], session, .failed (.unknownNode id)⟩
    | some step =>
      let (log, session, result) := step.perform modes session id state
      let log := .nodeStarted id step.label :: log
      match result with
      | .ok advance =>
        let log := log ++ [.nodeCompleted id advance.next]
        match p.goesOn id advance.next with
        | some next =>
          (p.runFrom modes allowed (taken + 1) session next advance.state).after log advance.events
        | none => ⟨log, advance.events, session, .completed advance.state (taken + 1)⟩
      | .failed error => ⟨log, [], session, .failed error⟩
      | .panicked text => ⟨log, [], session, .panicked id text⟩

/-- A run of the loop from the start, with at most as many steps as there are nodes. -/
def loop (p : Plan) (modes : Modes) (session : Session) (state : State) : Run :=
  p.runFrom modes p.size 0 session p.start state

/-! ### Entry points -/

def closingLog : Run.Ending → List LogEvent
  | .completed _ steps => [.runCompleted steps]
  | .failed error => [.runFailed error]
  | .panicked .. => []

/-- Runs the plan on a state.  Nothing is streamed. -/
def invoke (p : Plan) (session : Session) (state : State) : Run :=
  let r := p.loop {} session state
  { r with log := .runStarted p.start :: r.log ++ closingLog r.ending }

/-- The events at the end of a streamed run, and their log.  A panic is reported as the failure
    of the node that was running. -/
def closing : Run.Ending → List LogEvent × List StreamEvent
  | .completed .. => ([], [])
  | .failed error => ([], [.failed error.nodeId error.message])
  | .panicked node text =>
    ([.runAborted node (panicMessage text)], [.failed node (panicMessage text)])

/-- Runs the plan on a state and streams the events of the given kinds, and a failure. -/
def stream (p : Plan) (modes : Modes) (session : Session) (state : State) : Run :=
  let r := p.loop modes session state
  let (log, events) := closing r.ending
  { r with
    log := .runStarted p.start :: r.log ++ closingLog r.ending ++ log
    events := r.events ++ events }

/-- Asks a router what it would decide on a state, under its policy.  Nothing is run. -/
def route (p : Plan) (session : Session) (id : String) (state : State) :
    List LogEvent × Session × StepResult Decision :=
  match p.step? id with
  | none => ([], session, .failed (.unknownNode id))
  | some step =>
    match step.action with
    | .work .. => ([], session, .failed (.notARouter id))
    | .branch choose routes incoming =>
      dispatch session id step.policy choose routes incoming state

end Plan

end Flowgraph
