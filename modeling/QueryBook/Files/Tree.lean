import QueryBook.Files.Fault
import QueryBook.Files.Path

namespace QueryBook.Files

/-!
# Trees of files

* `Signature`, `File` — a file by its modification time, its length, and its text.
* `Node` — a file or a directory, and what is neither: an entry of which nothing can be known, and a
  directory that cannot be listed.
* `Node.alter` — a change at one place of a tree.
-/

/-- What tells a changed file from an unchanged one. -/
structure Signature where
  modified : Option Int
  size : Nat
deriving DecidableEq, Repr

/-- A file. -/
structure File where
  signature : Signature
  text : Except Fault String

/-- The file of some bytes. Its text is what they encode. -/
def File.ofBytes (modified : Option Int) (bytes : ByteArray) : File where
  signature := ⟨modified, bytes.size⟩
  text :=
    match String.fromUTF8? bytes with
    | some text => .ok text
    | none => .error .notText

/-- An entry of a directory. -/
inductive Node where
  | file (f : File)
  /-- An entry that is listed but cannot be looked at, such as a link to nothing. -/
  | broken (fault : Fault)
  | directory (entries : List (String × Node))
  /-- A directory that cannot be listed. -/
  | closed (fault : Fault)

namespace Node

instance : Inhabited Node := ⟨directory []⟩

/-- Whether an entry is a directory. -/
def isDirectory : Node → Bool
  | directory _ | closed _ => true
  | _ => false

/-- The entry of a name in a list of entries. -/
def find? (name : String) : List (String × Node) → Option Node
  | [] => none
  | e :: es => if e.1 = name then some e.2 else find? name es

/-- A list of entries with another entry, or none, for a name. -/
def setEntry (name : String) (node : Option Node) : List (String × Node) → List (String × Node)
  | [] => (node.map fun n => (name, n)).toList
  | e :: es =>
    if e.1 = name then (node.map fun n => (name, n)).toList ++ es else e :: setEntry name node es

/-- A tree that is changed where a row of names leads. Directories on the way are made. -/
def alter (change : Option Node → Option Node) : List String → Option Node → Option Node
  | [], node => change node
  | name :: more, node =>
    let entries := match node with
      | some (directory es) => es
      | _ => []
    some (directory (setEntry name (alter change more (find? name entries)) entries))

end Node

end QueryBook.Files
