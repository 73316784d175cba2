import QueryBook.Files.Listing

namespace QueryBook.Files

/-!
# Disks

What paths lead to: names from the working directory, or from the root if they begin with a slash.

* `Disk.find` — the entry that a path leads to.
* `Disk.isDirectory`, `Disk.readText`, `Disk.xmlFiles` — what is asked of it.
* `Disk.change` — a change at one place below the working directory.
-/

/-- The trees that paths lead into. -/
structure Disk where
  /-- The working directory. -/
  working : Node
  /-- The directory of the paths that begin with a slash. -/
  root : Node := .directory []

/-- Follows parts from an entry, given the directories above it, innermost first. -/
def follow (root : Node) (above : List Node) (here : Node) : Location → Except Fault Node
  | [] => .ok here
  | .root :: parts => follow root [] root parts
  | .current :: parts => follow root above here parts
  | .parent :: parts =>
    if here.isDirectory then
      match above with
      | up :: above => follow root above up parts
      -- Nothing lies above the outermost directory.
      | [] => follow root [] here parts
    else .error .notDirectory
  | .name s :: parts =>
    match here with
    | .directory entries =>
      match Node.find? s entries with
      | some node => follow root (here :: above) node parts
      | none => .error .notFound
    | .closed fault => .error fault
    | .broken fault => .error fault
    | .file _ => .error .notDirectory

namespace Disk

/-- The entry that a path leads to. -/
def find (d : Disk) (p : FilePath) : Except Fault Node :=
  if p.text.isEmpty then .error .notFound else follow d.root [] d.working p.parts

/-- Whether a path leads to a directory. -/
def isDirectory (d : Disk) (p : FilePath) : Bool :=
  match d.find p with
  | .ok node => node.isDirectory
  | .error _ => false

/-- The text of the file that a path leads to. -/
def readText (d : Disk) (p : FilePath) : Except Fault String := do
  match ← d.find p with
  | .file f => f.text
  | .broken fault => .error fault
  | .directory _ | .closed _ => .error .isDirectory

/-- The files with the extension `xml` below a directory. -/
def xmlFiles (d : Disk) (p : FilePath) : Except (FilePath × Fault) (List XmlFile) :=
  match d.find p with
  | .ok node => node.xmlFiles p
  | .error fault => .error (p, fault)

/-- The disk with a change where a row of names leads from the working directory. -/
def change (d : Disk) (names : List String) (f : Option Node → Option Node) : Disk :=
  { d with working := (Node.alter f names (some d.working)).getD (.directory []) }

end Disk

end QueryBook.Files
