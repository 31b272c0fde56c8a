/-
  Flowgraph/Program.lean
  ======================
  **The program** — what it writes, and with which code it exits, for the words of a command
  line in a workspace.  Results go to the output; errors, and the lines shown during a run, go to
  the error output.
-/
import Flowgraph.Command
import Flowgraph.CommandLine

namespace Flowgraph

/-- What a program leaves behind. -/
structure Report where
  exitCode : Nat := 0
  output : String := ""
  errors : String := ""
deriving DecidableEq, Repr

namespace Program

def usage : String :=
  "Usage: flowgraph [-v] validate <definition>\n" ++
  "       flowgraph [-v] run <definition> [options] [words]\n\n" ++
  "Options of run:\n" ++
  "  -m, --message <text>         the message, in place of the words\n" ++
  "      --state <json>           more values for the state, as an object\n" ++
  "      --max-attempts <n>       calls of a node\n" ++
  "      --initial-interval-ms <n> wait before the second call\n" ++
  "      --no-retry               call each node once\n" ++
  "      --no-jitter              wait without random factors\n" ++
  "      --stream                 show outputs and decisions on the way\n" ++
  "      --output-only            print the last output alone\n"

/-- Some lines, each ended. -/
def lines (texts : List String) : String := String.join (texts.map (· ++ "\n"))

/-- The report on words that were refused.  Help that was asked for is no error. -/
def refusal : UsageError → Report
  | .helpAsked => { output := usage }
  | .nothingAsked => { exitCode := 2, errors := usage }
  | e => { exitCode := 2, errors := "error: " ++ e.message ++ "\n\n" ++ usage }

def validation (a : Attempt Summary) : Report :=
  match a.result with
  | .ok summary => { output := summary.text }
  | .error e => { exitCode := 1, errors := "invalid pipeline: " ++ e.message ++ "\n" }

/-- The report on a run: the final state, or only its last output. -/
def outcome (outputOnly : Bool) (a : Attempt State) : Report :=
  match a.result with
  | .ok s =>
    { output := (if outputOnly then s.inputText else s.toJson.spread) ++ "\n"
      errors := lines a.shown }
  | .error e => { exitCode := 1, errors := lines (a.shown ++ ["error: " ++ e.message]) }

def perform (w : Workspace) : Request → Report
  | .validate path _ => validation (Flowgraph.validate w path)
  | .run r =>
    match initialState r.message r.state with
    | .error e => { exitCode := 1, errors := "Error: " ++ e.describe ++ "\n" }
    | .ok s => outcome r.outputOnly (runWithOptions w r.definition s r.options)

def run (w : Workspace) (words : List String) : Report :=
  match CommandLine.parse words with
  | .ok request => perform w request
  | .error e => refusal e

end Program

end Flowgraph
