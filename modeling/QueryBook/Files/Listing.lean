import QueryBook.Files.Tree

namespace QueryBook.Files

/-!
# Listing a tree

* `XmlFile` — a file with the extension `xml`, as a listing finds it.
* `Node.xmlFiles` — all of them below a directory, at any depth, in the order of their paths; or the
  first directory that cannot be listed.
-/

/-- A file that a listing has found. -/
structure XmlFile where
  path : FilePath
  signature : Except Fault Signature
  text : Except Fault String

/-- Where the file is. -/
def XmlFile.location (f : XmlFile) : Location := f.path.parts

mutual

/-- The files of an entry, given its path and its name. -/
def Node.collect (path : FilePath) (name : String) : Node → Except (FilePath × Fault) (List XmlFile)
  -- A directory is entered whatever its name is.
  | .directory entries => collectEntries path entries
  | .closed fault => .error (path, fault)
  | .file f => .ok (if hasXmlExtension name then [⟨path, .ok f.signature, f.text⟩] else [])
  | .broken fault =>
    .ok (if hasXmlExtension name then [⟨path, .error fault, .error fault⟩] else [])

/-- The files of the entries of a directory. -/
def collectEntries (path : FilePath) :
    List (String × Node) → Except (FilePath × Fault) (List XmlFile)
  | [] => .ok []
  | (name, node) :: entries => do
    let files ← node.collect (path.join name) name
    .ok (files ++ (← collectEntries path entries))

end

/-- The files below a directory, in the order of their paths. -/
def Node.xmlFiles (path : FilePath) (node : Node) : Except (FilePath × Fault) (List XmlFile) :=
  match node with
  | .directory entries =>
    (collectEntries path entries).map fun files =>
      files.mergeSort fun f g => Location.le f.location g.location
  | .closed fault | .broken fault => .error (path, fault)
  | .file _ => .error (path, .notDirectory)

end QueryBook.Files
