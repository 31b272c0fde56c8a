/-
  Flowgraph/Workspace.lean
  ========================
  **Where a command works** — the files it can read and the variables that are set.  A file that
  cannot be read is a `FileError`, reported in the words of the operating system.
-/
import Flowgraph.Config

namespace Flowgraph

/-- Why a file cannot be read as a text. -/
inductive FileError
  | notFound
  | permissionDenied
  /-- A part of the path that should be a directory is a file. -/
  | notADirectory
  | isADirectory
  /-- A part of the path, or all of it, is too long. -/
  | nameTooLong
  | nulInName
  /-- The content is not UTF-8. -/
  | notText
  /-- Any other failure, in words. -/
  | other (report : String)
deriving DecidableEq, Repr

def FileError.message : FileError → String
  | notFound => "No such file or directory (os error 2)"
  | permissionDenied => "Permission denied (os error 13)"
  | notADirectory => "Not a directory (os error 20)"
  | isADirectory => "Is a directory (os error 21)"
  | nameTooLong => "File name too long (os error 36)"
  | nulInName => "file name contained an unexpected NUL byte"
  | notText => "stream did not contain valid UTF-8"
  | other report => report

/-- The files that a command can read and the variables that are set. -/
structure Workspace where
  environment : Environment
  /-- The content of the file at a path. -/
  read : String → Except FileError ByteArray
  /-- The content of the file with more variables, if there is one. -/
  settings : Option ByteArray

namespace Workspace

def settingsName : String := ".env"

def readText (w : Workspace) (path : String) : Except FileError String := do
  match String.fromUTF8? (← w.read path) with
  | some text => return text
  | none => throw .notText

end Workspace

end Flowgraph
