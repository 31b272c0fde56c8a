/-
  Flowgraph/Command.lean
  ======================
  **Definitions in files** — a definition is loaded from a workspace, compiled with the built-in
  kinds and the policy of a configuration, and then summed up (`validate`) or run.

  `runWithConfig` runs it in one go; `streamWithConfig` shows each output and decision on the
  way.  `runFile` and `runWithOptions` take the configuration from the variables of the workspace.
-/
import Flowgraph.Builtin
import Flowgraph.Config.EnvFile
import Flowgraph.Run
import Flowgraph.Workspace

namespace Flowgraph

/-! ### Errors and results -/

/-- Why a command fails. -/
inductive CommandError
  | config (error : ConfigError)
  | file (path : String) (error : FileError)
  | definition (error : DefinitionError)
  | run (error : RunError)
  | endedAt (id message : String)

def CommandError.message : CommandError → String
  | config e => e.message
  | file path e => "cannot read " ++ path ++ ": " ++ e.message
  | definition e => e.message
  | run e => e.message
  | endedAt id message => "run failed at '" ++ id ++ "': " ++ message

/-- Why a text gives no values for the state. -/
inductive InputError
  | unreadable (error : Json.ReadError)
  | notAnObject

namespace InputError

def message : InputError → String
  | unreadable e => e.message
  | notAnObject => "--state must be a JSON object"

/-- The report for a developer: the parts of the error by name. -/
def describe : InputError → String
  | unreadable e => e.describe
  | notAnObject =>
    "Custom \x7b kind: InvalidInput, error: " ++ Text.quoted notAnObject.message ++ " \x7d"

end InputError

/-- What came of a command: its log, the lines shown on the way, and its result. -/
structure Attempt (α : Type) where
  log : List LogEvent := []
  shown : List String := []
  result : Except CommandError α

/-- Goes on with the result, if there is one. -/
def Attempt.andThen {α β : Type} (a : Attempt α) (next : α → Attempt β) : Attempt β :=
  match a.result with
  | .error e => { a with result := .error e }
  | .ok value =>
    let b := next value
    ⟨a.log ++ b.log, a.shown ++ b.shown, b.result⟩

def Attempt.of {α : Type} (result : Except CommandError α) : Attempt α := { result }

/-! ### Loading and compiling -/

def loadDefinition (w : Workspace) (path : String) : Except CommandError Definition := do
  let text ← (w.readText path).mapError (.file path)
  (Definition.ofText text).mapError .definition

/-- Compiles a definition with the built-in kinds and the policy of a configuration. -/
def compileDefinition (d : Definition) (c : Config) : Attempt Plan :=
  let (log, result) := d.compile Builtin.registry c.policy
  { log, result := result.mapError .definition }

/-! ### Validation -/

/-- What a valid definition amounts to. -/
structure Summary where
  start : String
  finish : String
  nodeCount : Nat
  /-- The routers with their conditions, in the order of the definition. -/
  routers : List (String × List String)
deriving DecidableEq, Repr

/-- The summary in words, a line for the graph and one for each router. -/
def Summary.text (s : Summary) : String :=
  "ok: " ++ toString s.nodeCount ++ " nodes, " ++ s.start ++ " -> " ++ s.finish ++ "\n" ++
    String.join (s.routers.map fun r =>
      "router " ++ r.1 ++ ": " ++ ", ".intercalate r.2 ++ "\n")

def Summary.ofPlan (d : Definition) (p : Plan) : Summary where
  start := p.start
  finish := p.finish
  nodeCount := p.size
  routers := d.nodes.filterMap fun n => (p.routes? n.id).map fun t => (n.id, t.conditions)

/-- Loads and compiles the definition in a file without running it. -/
def validate (w : Workspace) (path : String) : Attempt Summary :=
  (Attempt.of (loadDefinition w path)).andThen fun d =>
    (compileDefinition d {}).andThen fun p => .of (.ok (.ofPlan d p))

/-! ### Running -/

/-- The state of a run on an input, with the values of an object in a text besides.  A value
    may take the place of the input. -/
def initialState (input : String) (extra : Option String) : Except InputError State := do
  match extra with
  | none => return .ofInput (.str input)
  | some text =>
    match ← (Json.Decoder.any.ofText text).mapError .unreadable with
    | .obj fields => return fields.foldl (fun s f => s.insert f.1 f.2) (.ofInput (.str input))
    | _ => throw .notAnObject

def Run.Ending.result : Run.Ending → Except CommandError State
  | .completed s _ => .ok s
  | .failed e => .error (.run e)
  | .panicked id text => .error (.endedAt id (panicMessage text))

def runWithConfig (c : Config) (d : Definition) (s : State) : Attempt State :=
  (compileDefinition d c).andThen fun p =>
    let r := p.invoke .fresh s
    { log := .compiled p.start p.size c.maxAttempts.toNat :: r.log, result := r.ending.result }

/-- Follows a stream to its end: a line for each output and decision, and the latest state. -/
def follow (latest : State) : List StreamEvent → List String × Except CommandError State
  | [] => ([], .ok latest)
  | .values _ :: rest => follow latest rest
  | .updates id s :: rest =>
    let (lines, result) := follow s rest
    (("[" ++ id ++ "] " ++ s.inputText) :: lines, result)
  | .route id condition target :: rest =>
    let (lines, result) := follow latest rest
    (("[" ++ id ++ "] " ++ condition ++ " -> " ++ target) :: lines, result)
  | .failed id message :: _ => ([], .error (.endedAt id message))

/-- Compiles a definition and runs it on a state, showing each output and decision. -/
def streamWithConfig (c : Config) (d : Definition) (s : State) : Attempt State :=
  (compileDefinition d c).andThen fun p =>
    let r := p.stream { updates := true, routes := true } .fresh s
    let (shown, result) := follow s r.events
    { log := r.log, shown, result }

/-- The variables of a workspace, those of its file included. -/
def Workspace.allVariables (w : Workspace) : Environment :=
  match w.settings with
  | some content => EnvFile.load w.environment content
  | none => w.environment

/-- Runs the definition in a file on a state, with a configuration from the variables of the
    workspace and then from options. -/
def runWithOptions (w : Workspace) (path : String) (s : State) (o : Options) : Attempt State :=
  (Attempt.of ((Config.ofEnvironment w.allVariables).mapError .config)).andThen fun c =>
    let c := c.apply o
    (Attempt.of (loadDefinition w path)).andThen fun d =>
      if c.stream then streamWithConfig c d s else runWithConfig c d s

/-- Runs the definition in a file on an input, with a configuration from the variables of the
    workspace. -/
def runFile (w : Workspace) (path input : String) : Attempt State :=
  runWithOptions w path (.ofInput (.str input)) {}

end Flowgraph
