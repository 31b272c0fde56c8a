/-
  Flowgraph/Workspace/Folder.lean
  ===============================
  **Folders kept in memory** — named files and directories, found by paths as in a file system.
  A path goes from part to part, each but the last a directory; `.` stays where it is and `..`
  goes up.  A path that begins with a slash starts at the root of the system, where there are
  its usual directories and the empty file `/dev/null`; nothing is known of what lies between
  the root and the folder.
-/
import Flowgraph.Workspace

namespace Flowgraph

/-- What a name in a folder stands for. -/
inductive Folder.Entry
  | file (content : ByteArray)
  | directory

/-- A folder: what is in it, by paths of names from the folder down. -/
structure Folder where
  entries : List (List String × Folder.Entry)

namespace Folder

/-! ### Paths -/

/-- The longest name that a file or a directory may have, in bytes. -/
def maxNameSize : Nat := 255

/-- The longest path that can be looked up, in bytes. -/
def maxPathSize : Nat := 4095

def parts (path : String) : List String :=
  split path.toList
where
  /-- The parts of the rest of a path; the first of them is being read. -/
  split : List Char → List String
    | [] => [""]
    | c :: rest =>
      match split rest with
      | [] => []
      | part :: parts => if c = '/' then "" :: part :: parts else (c.toString ++ part) :: parts

/-- What stands under some names.  A directory is also there if something in it is. -/
def entry? (f : Folder) (names : List String) : Option Entry :=
  match f.entries.find? (·.1 = names) with
  | some found => some found.2
  | none => if f.entries.any fun e => names.isPrefixOf e.1 then some .directory else none

/-- The root of the system: its usual directories, and the file in which nothing is. -/
def root : Folder :=
  ⟨(["dev", "null"], .file .empty) ::
    ["bin", "boot", "etc", "home", "lib", "media", "mnt", "opt", "proc", "root", "run", "sbin",
      "srv", "sys", "tmp", "usr", "var"].map fun name => ([name], .directory)⟩

/-- Where a path has led so far. -/
inductive Place
  /-- To a directory in the folder, given by the names down to it. -/
  | inside (names : List String)
  /-- To a directory above the folder. -/
  | above
  /-- To a directory of the system, given by the names from the root down to it. -/
  | system (names : List String)
  | file (content : ByteArray)

/-- Where `..` leads; the root is above itself. -/
def Place.up : Place → Place
  | .inside [] => .above
  | .inside names => .inside names.dropLast
  | .system names => .system names.dropLast
  | place => place

def find (f : Folder) (place : Place) (name : String) : Except FileError Place :=
  match place with
  | .file _ => .error .notADirectory
  | .above => .error .notFound
  | .inside names => lookup f .inside (names ++ [name])
  | .system names => lookup root .system (names ++ [name])
where
  /-- What stands under some names of a folder. -/
  lookup (f : Folder) (toPlace : List String → Place) (names : List String) :
      Except FileError Place :=
    match f.entry? names with
    | some (.file content) => .ok (.file content)
    | some .directory => .ok (toPlace names)
    | none => .error .notFound

def enter (f : Folder) (place : Place) (part : String) : Except FileError Place :=
  match place with
  | .file _ => .error .notADirectory
  | _ =>
    if part = "" ∨ part = "." then .ok place
    else if part = ".." then .ok place.up
    else if maxNameSize < part.utf8ByteSize then .error .nameTooLong
    else f.find place part

/-- Goes along a path from the folder, or, if it begins with a slash, from the root. -/
def locate (f : Folder) (path : String) : Except FileError Place :=
  if path.toList.contains '\x00' then .error .nulInName
  else if path = "" then .error .notFound
  else if maxPathSize < path.utf8ByteSize then .error .nameTooLong
  else (parts path).foldlM f.enter (if path.toList.head? = some '/' then .system [] else .inside [])

def read (f : Folder) (path : String) : Except FileError ByteArray := do
  match ← f.locate path with
  | .file content => return content
  | .inside _ | .above | .system _ => throw .isADirectory

/-! ### Workspaces -/

def add (f : Folder) (path : String) (entry : Entry) : Folder :=
  ⟨f.entries ++ [(parts path, entry)]⟩

def toWorkspace (f : Folder) (environment : Environment) : Workspace where
  environment
  read := f.read
  settings := (f.read Workspace.settingsName).toOption

end Folder

end Flowgraph
