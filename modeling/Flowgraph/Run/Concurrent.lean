/-
  Flowgraph/Run/Concurrent.lean
  =============================
  **Runs at the same time** — several runs of one plan share its nodes and one session.  A run
  keeps its turn until it has to wait before a node is called again.  Then the run goes on whose
  wait ends first, and of several whose waits end at the same time the one that began to wait
  first (`Moment`).

  `Plan.turn` is one call of a node, with all that follows from it up to the next call, and
  `Plan.takeTurns` the loop, which ends because each turn uses up a step or a call of a run.
  `Plan.invokeAll` gives what each of the runs comes to, and one log of all.
-/
import Flowgraph.Run

namespace Flowgraph

/-! ### Time -/

/-- The ticks of a wait, a tick for every millisecond that is begun.  No wait is longer than
    thirty years. -/
def Duration.ticks (d : Duration) : Nat := min ((d.nanos + 999999) / 1000000) 946080000000

/-- A place in the order in which runs go on. -/
structure Moment where
  /-- The tick at which the run goes on. -/
  time : Nat
  /-- The greater, the later the run began to wait for that tick. -/
  order : Nat
deriving DecidableEq, Repr

namespace Moment

/-- Whether a run goes on before another: at an earlier tick, or after a wait for the same tick
    that began earlier. -/
def before (a b : Moment) : Bool :=
  a.time < b.time || (a.time == b.time && a.order < b.order)

/-- The moment after a wait that begins now.  A wait of no length is none, and leaves the run in
    its place. -/
def after (now : Moment) (wait : Duration) (order : Nat) : Moment :=
  if wait.ticks = 0 then now else ⟨now.time + wait.ticks, order⟩

end Moment

/-! ### Turns -/

/-- A run that has not ended. -/
structure Task where
  /-- The number of steps still allowed. -/
  allowed : Nat
  /-- The number of steps taken. -/
  taken : Nat
  /-- The node whose step it is. -/
  node : String
  /-- The number of the next call in this step, the first being number one. -/
  attempt : Nat
  state : State

/-- How far a run has come: it goes on at a moment, or it has ended. -/
inductive Progress
  | due (moment : Moment) (task : Task)
  | ended (ending : Run.Ending)

/-- What follows a call of a node: another call, or the end of its step. -/
inductive Verdict (α : Type)
  | again (retry : Retry)
  | done (result : StepResult α)

/-- What follows a call under a policy. -/
def RetryPolicy.judge {α : Type} (p : RetryPolicy) (id : String) (attempt : Nat)
    (factor : Binary64) : Outcome α → Verdict α
  | .ok value => .done (.ok value)
  | .panicked text => .done (.panicked text)
  | .failed error =>
    match p.again? attempt factor error with
    | some retry => .again retry
    | none => .done (.failed (.node id attempt error))

/-- Makes the next call of a step: its log, and what follows it. -/
def Step.call (step : Step) (session : Session) (task : Task) : List LogEvent × Verdict Advance :=
  let n := session.calls task.node
  let factor := session.factor task.node (n + 1)
  match step.action with
  | .work run next =>
    match step.policy.judge task.node task.attempt factor (run n task.state) with
    | .again retry => ([], .again retry)
    | .done result => ([], .done (result.map fun state => ⟨[], state, next⟩))
  | .branch choose routes incoming =>
    match step.policy.judge task.node task.attempt factor (choose n task.state incoming) with
    | .again retry => ([], .again retry)
    | .done result =>
      let (log, result) := resolve task.node routes result
      (log, .done (result.map fun d => ⟨[], task.state, some d.target⟩))

/-- What a turn of a run gives: its log, the session afterwards, and how far the run has come. -/
structure Turn where
  log : List LogEvent
  session : Session
  progress : Progress

/-- The log at the beginning of a turn, if a step begins with it. -/
def Task.openingLog (task : Task) (step : Step) : List LogEvent :=
  if task.attempt = 1 then [.nodeStarted task.node step.label] else []

namespace Plan

/-- The turn of a run at some moment; a wait that begins in it takes the given place. -/
def turn (p : Plan) (session : Session) (now : Moment) (order : Nat) (task : Task) : Turn :=
  match task.allowed with
  | 0 => ⟨[], session, .ended (.failed (.stepLimit task.node p.size))⟩
  | allowed + 1 =>
    match p.step? task.node with
    | none => ⟨[], session, .ended (.failed (.unknownNode task.node))⟩
    | some step =>
      let (log, verdict) := step.call session task
      let log := task.openingLog step ++ log
      let session := session.addCalls task.node 1
      match verdict with
      | .again retry =>
        ⟨log ++ [.retrying task.node retry step.policy.budget], session,
          .due (now.after retry.delay order) { task with attempt := task.attempt + 1 }⟩
      | .done (.ok advance) =>
        let log := log ++ [.nodeCompleted task.node advance.next]
        match p.goesOn task.node advance.next with
        | some next => ⟨log, session, .due now ⟨allowed, task.taken + 1, next, 1, advance.state⟩⟩
        | none => ⟨log, session, .ended (.completed advance.state (task.taken + 1))⟩
      | .done (.failed error) => ⟨log, session, .ended (.failed error)⟩
      | .done (.panicked text) => ⟨log, session, .ended (.panicked task.node text)⟩

/-- The log of a turn, with that of the beginning and of the end of the run. -/
def turnLog (p : Plan) (task : Task) (turn : Turn) : List LogEvent :=
  let opening := if task.taken = 0 ∧ task.attempt = 1 then [.runStarted p.start] else []
  match turn.progress with
  | .due .. => opening ++ turn.log
  | .ended ending => opening ++ turn.log ++ closingLog ending

end Plan

/-! ### Whose turn it is -/

/-- A turn that is due: that of the run at an index, at a moment. -/
structure Due where
  index : Nat
  moment : Moment
  task : Task

namespace Due

/-- A turn among the runs after one more. -/
def later (d : Due) : Due := { d with index := d.index + 1 }

def first? : List Progress → Option Due
  | [] => none
  | .ended _ :: rest => (first? rest).map later
  | .due moment task :: rest =>
    match first? rest with
    | some d => if d.moment.before moment then some d.later else some ⟨0, moment, task⟩
    | none => some ⟨0, moment, task⟩

theorem getElem?_of_first? {runs : List Progress} {d : Due} (h : first? runs = some d) :
    runs[d.index]? = some (.due d.moment d.task) := by
  induction runs generalizing d with
  | nil => cases h
  | cons run rest ih =>
    cases run with
    | ended ending =>
      obtain ⟨d', hd', rfl⟩ := Option.map_eq_some_iff.1 h
      simpa [later] using ih hd'
    | due moment task =>
      unfold first? at h
      split at h
      · next d' hd' =>
        split at h
        · cases h
          simpa [later] using ih hd'
        · cases h
          rfl
      · cases h
        rfl

end Due

/-! ### A bound on the turns -/

/-- A bound on the turns that a run may still take. -/
def Progress.turnsLeft : Progress → Nat
  | .due _ task => task.allowed * UInt32.size + (UInt32.size - task.attempt) + 1
  | .ended _ => 0

def turnsLeft : List Progress → Nat
  | [] => 0
  | run :: rest => run.turnsLeft + turnsLeft rest

theorem RetryPolicy.lt_budget_of_judge_eq_again {α : Type} {p : RetryPolicy} {id : String}
    {attempt : Nat} {factor : Binary64} {outcome : Outcome α} {retry : Retry}
    (h : p.judge id attempt factor outcome = .again retry) : attempt < p.budget := by
  unfold RetryPolicy.judge at h
  split at h
  · cases h
  · cases h
  · split at h
    · next ha => exact RetryPolicy.lt_budget_of_again?_eq_some ha
    · cases h

theorem Step.lt_budget_of_call {step : Step} {session : Session} {task : Task} {retry : Retry}
    (h : (step.call session task).2 = .again retry) : task.attempt < step.policy.budget := by
  unfold Step.call at h
  dsimp only at h
  split at h <;> split at h
  · next hj => exact RetryPolicy.lt_budget_of_judge_eq_again hj
  · cases h
  · next hj => exact RetryPolicy.lt_budget_of_judge_eq_again hj
  · cases h

theorem Plan.turnsLeft_turn (p : Plan) (session : Session) (now : Moment) (order : Nat)
    (task : Task) :
    (p.turn session now order task).progress.turnsLeft < (Progress.due now task).turnsLeft := by
  have hpos : 0 < UInt32.size := by decide
  unfold Plan.turn
  split
  · simp [Progress.turnsLeft]
  · next allowed ha =>
    split
    · simp [Progress.turnsLeft]
    · next step hs =>
      dsimp only
      split
      · next retry hr =>
        have := Step.lt_budget_of_call hr
        have := step.policy.budget_lt
        simp only [Progress.turnsLeft]
        omega
      · split
        · simp only [Progress.turnsLeft, ha, Nat.succ_mul]
          omega
        · simp [Progress.turnsLeft]
      · simp [Progress.turnsLeft]
      · simp [Progress.turnsLeft]

theorem turnsLeft_set {runs : List Progress} {i : Nat} {old new : Progress}
    (h : runs[i]? = some old) (hlt : new.turnsLeft < old.turnsLeft) :
    turnsLeft (runs.set i new) < turnsLeft runs := by
  induction runs generalizing i with
  | nil => cases h
  | cons run rest ih =>
    cases i with
    | zero =>
      cases h
      simpa [turnsLeft] using hlt
    | succ i =>
      have := ih (by simpa using h)
      simpa [turnsLeft] using this

/-! ### All runs -/

/-- What several runs give: their log, the session after them, and how they ended, in the order
    in which they were given. -/
structure Runs where
  log : List LogEvent
  session : Session
  endings : List Run.Ending

/-- How a run ended, if it has. -/
def Progress.ending? : Progress → Option Run.Ending
  | .ended ending => some ending
  | .due .. => none

namespace Plan

/-- Lets the runs take turns until all have ended.  The order is above that of all moments, and
    goes up with every turn. -/
def takeTurns (p : Plan) (session : Session) (order : Nat) (runs : List Progress) : Runs :=
  match _h : Due.first? runs with
  | none => ⟨[], session, runs.filterMap Progress.ending?⟩
  | some due =>
    let turn := p.turn session due.moment order due.task
    let rest := p.takeTurns turn.session (order + 1) (runs.set due.index turn.progress)
    { rest with log := p.turnLog due.task turn ++ rest.log }
termination_by turnsLeft runs
decreasing_by exact turnsLeft_set (Due.getElem?_of_first? _h) (p.turnsLeft_turn _ _ _ _)

/-- Runs the plan on several states at the same time.  Nothing is streamed. -/
def invokeAll (p : Plan) (session : Session) (states : List State) : Runs :=
  p.takeTurns session states.length
    (states.mapIdx fun i state => .due ⟨0, i⟩ ⟨p.size, 0, p.start, 1, state⟩)

end Plan

end Flowgraph
