/-
  Flowgraph/Config.lean
  =====================
  **Settings of a run** — the retry settings of all nodes and what is shown while a run goes on.
  They start from the defaults, are read from variables of the environment (`Config.ofEnvironment`)
  and then from the options of a command (`Config.apply`), the later winning over the earlier.

  A variable that is unset or blank leaves the default.  The first one, in the order of the
  settings, whose value cannot be read is an error.
-/
import Flowgraph.Fields
import Flowgraph.Retry.Policy
import Flowgraph.Text.Blank
import Flowgraph.Text.Number
import Flowgraph.Text.Quoted

namespace Flowgraph

/-- The variables that are set, with their texts. -/
abbrev Environment := Fields String

/-- The settings of a run. -/
structure Config where
  maxAttempts : UInt32 := 3
  initialIntervalMs : UInt64 := 500
  backoffFactor : Binary64 := 2
  maxIntervalMs : UInt64 := 128000
  jitter : Bool := true
  /-- Whether outputs and decisions are shown while the run goes on. -/
  stream : Bool := false
  verbose : Bool := false

/-- What a command asks for besides what it runs. -/
structure Options where
  maxAttempts : Option UInt32 := none
  initialIntervalMs : Option UInt64 := none
  noRetry : Bool := false
  noJitter : Bool := false
  stream : Bool := false
  verbose : Bool := false
deriving DecidableEq, Inhabited

/-- Why a variable cannot be read. -/
inductive ConfigError
  | invalidValue (name text : String)
  | notATruthValue (name text : String)
deriving DecidableEq, Repr

def ConfigError.message : ConfigError → String
  | invalidValue name text => name ++ " has an invalid value: " ++ Text.quoted text
  | notATruthValue name text => name ++ " must be true or false, got " ++ Text.quoted text

namespace Config

/-! ### Variables -/

def maxAttemptsVariable : String := "PIPEGRAPH_MAX_ATTEMPTS"
def initialIntervalVariable : String := "PIPEGRAPH_INITIAL_INTERVAL_MS"
def backoffFactorVariable : String := "PIPEGRAPH_BACKOFF_FACTOR"
def maxIntervalVariable : String := "PIPEGRAPH_MAX_INTERVAL_MS"
def jitterVariable : String := "PIPEGRAPH_JITTER"

/-- The names of the variables, in the order in which they are read. -/
def variableNames : List String :=
  [maxAttemptsVariable, initialIntervalVariable, backoffFactorVariable, maxIntervalVariable,
   jitterVariable]

/-- The value of a variable, read by `read?` without the white space around it; nothing if it is
    unset or blank. -/
def readVariable {α : Type} (read? : String → Option α) (env : Environment) (name : String) :
    Except ConfigError (Option α) :=
  match env.get? name with
  | none => .ok none
  | some text =>
    if (Text.trim text).isEmpty then .ok none
    else
      match read? (Text.trim text) with
      | some value => .ok (some value)
      | none => .error (.invalidValue name text)

/-- A truth value in one of its spellings, in capital or small letters. -/
def truthValue? (text : String) : Option Bool :=
  let word := String.ofList (text.toList.map Char.toLower)
  if word ∈ ["1", "true", "yes", "on"] then some true
  else if word ∈ ["0", "false", "no", "off"] then some false
  else none

def readFlag (env : Environment) (name : String) : Except ConfigError (Option Bool) := do
  match ← readVariable some env name with
  | none => return none
  | some text =>
    match truthValue? text with
    | some b => return some b
    | none => throw (.notATruthValue name text)

/-- The settings with those replaced that the environment sets. -/
def ofEnvironment (env : Environment) : Except ConfigError Config := do
  let defaults : Config := {}
  let maxAttempts ← readVariable (Text.natural? UInt32.size) env maxAttemptsVariable
  let initialInterval ← readVariable (Text.natural? UInt64.size) env initialIntervalVariable
  let backoffFactor ← readVariable Text.float? env backoffFactorVariable
  let maxInterval ← readVariable (Text.natural? UInt64.size) env maxIntervalVariable
  let jitter ← readFlag env jitterVariable
  return { defaults with
    maxAttempts := (maxAttempts.map UInt32.ofNat).getD defaults.maxAttempts
    initialIntervalMs := (initialInterval.map UInt64.ofNat).getD defaults.initialIntervalMs
    backoffFactor := backoffFactor.getD defaults.backoffFactor
    maxIntervalMs := (maxInterval.map UInt64.ofNat).getD defaults.maxIntervalMs
    jitter := jitter.getD defaults.jitter }

/-! ### Options and policy -/

/-- The settings with those replaced that the options set.  A run without retries makes one
    call, whatever number is asked for besides. -/
def apply (c : Config) (o : Options) : Config :=
  { c with
    maxAttempts := if o.noRetry then 1 else o.maxAttempts.getD c.maxAttempts
    initialIntervalMs := o.initialIntervalMs.getD c.initialIntervalMs
    jitter := if o.noJitter then false else c.jitter
    stream := c.stream || o.stream
    verbose := o.verbose }

/-- The policy of all nodes.  Only nodes that were asked too often are called again. -/
def policy (c : Config) : RetryPolicy where
  maxAttempts := c.maxAttempts
  initialInterval := Duration.ofMillis c.initialIntervalMs
  backoffFactor := c.backoffFactor
  maxInterval := Duration.ofMillis c.maxIntervalMs
  jitter := c.jitter

end Config

end Flowgraph
