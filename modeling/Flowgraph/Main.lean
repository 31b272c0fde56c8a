/-
  Flowgraph/Main.lean
  ===================
  **The executable** — reads what the program needs from the file system and the environment,
  and writes its report.  What is done with it is `Program.run`.
-/
import Flowgraph.Program

namespace Flowgraph.Main

/-- Why the operating system did not give a file.  Its number for a cause may come negated. -/
def fileError : IO.Error → FileError
  | .noFileOrDirectory .. => .notFound
  | .permissionDenied .. => .permissionDenied
  | .inappropriateType _ code _ => if code = 21 then .isADirectory else .notADirectory
  | e@(.invalidArgument _ code _) =>
    if code = 36 ∨ code = -36 then .nameTooLong else .other (toString e)
  | e => .other (toString e)

def readFile (path : String) : IO (Except FileError ByteArray) := do
  if path.toList.contains '\x00' then return .error .nulInName
  try return .ok (← IO.FS.readBinFile path)
  catch e => return .error (fileError e)

/-- The number of directories in which the file with variables is looked for. -/
def maxAncestors : Nat := 64

/-- Reads the file with variables in the directory or the nearest directory above it. -/
def readSettings : IO (Option ByteArray) := do
  for up in List.range maxAncestors do
    let path := String.join (List.replicate up "../") ++ Workspace.settingsName
    if let .ok content ← readFile path then return some content
  return none

def readEnvironment (names : List String) : IO Environment := do
  let mut env : Environment := []
  for name in names do
    if let some value ← IO.getEnv name then env := env.insert name value
  return env

def workspaceFor (path : String) : IO Workspace := do
  let content ← readFile path
  let settings ← readSettings
  let text := (settings.bind fun content => String.fromUTF8? content).getD ""
  let environment ← readEnvironment (Config.variableNames ++ EnvFile.mentioned text.toList)
  return { environment, settings, read := fun p => if p = path then content else .error .notFound }

/-- Reads what the words ask for and runs the program on it. -/
def report (words : List String) : IO Report := do
  match CommandLine.parse words with
  | .ok request => return Program.perform (← workspaceFor request.definition) request
  | .error e => return Program.refusal e

end Flowgraph.Main

def main (words : List String) : IO UInt32 := do
  let report ← Flowgraph.Main.report words
  IO.print report.output
  IO.eprint report.errors
  return UInt32.ofNat report.exitCode
