import QueryBook.Catalog.Freshness
import QueryBook.Catalog.SearchPath

namespace QueryBook

open Files (Location FilePath)

/-!
# The catalog of templates

* `Catalog` — the templates that are loaded, by key, and what is known of the files they came from.
* `Catalog.ofOptions` — an empty catalog at the first directory that exists.
* `Catalog.find?`, `keys`, `size` — reading; `invalidate`, `evict` — forgetting.
-/

/-- A template that is loaded. Every load has a number of its own. -/
structure Loaded where
  serial : Nat
  template : Template
deriving DecidableEq, Repr

/-- A file that failed to load, and why. -/
structure Failure where
  path : FilePath
  fault : LoadFault

/-- The error of a file that failed to load. -/
def Failure.error (f : Failure) : Error := .loadFailed f.path.text f.fault

/-- The templates of a directory. -/
structure Catalog where
  root : FilePath
  defaultConnection : String
  /-- The loaded templates by key. -/
  templates : Dictionary String Loaded := .empty
  /-- The keys that each file gave when it was last loaded. -/
  fileKeys : Dictionary Location (List String) := .empty
  freshness : Freshness := Dictionary.empty
  /-- The files that failed in the last scan. -/
  failures : List Failure := []
  /-- How many scans there were, and how many files they loaded and passed over. -/
  scans : Nat := 0
  parsed : Nat := 0
  skipped : Nat := 0
  nextSerial : Nat := 0

/-- Where a template was read from. -/
def Template.location? (t : Template) : Option Location := t.source.map FilePath.parts

namespace Catalog

/-- An empty catalog at the first candidate that is a directory. -/
def ofOptions (o : SearchOptions) (disk : Files.Disk) : Except Error Catalog := do
  let root ← o.resolveRoot disk
  .ok { root, defaultConnection := o.defaultConnection }

/-- The loaded template of a key, which is read without case. -/
def find? (c : Catalog) (key : String) : Option Loaded := c.templates.get? (Text.lowercase key)

/-- The keys of the loaded templates, in order. -/
def keys (c : Catalog) : List String := c.templates.keys.mergeSort fun a b => decide (a ≤ b)

/-- The number of loaded templates. -/
def size (c : Catalog) : Nat := c.templates.size

/-- Forgets every template and every file. -/
def invalidate (c : Catalog) : Catalog :=
  { c with templates := .empty, fileKeys := .empty, freshness := Dictionary.empty }

/-- Forgets the template of a key and that its file was loaded. Says whether there was one. -/
def evict (c : Catalog) (key : String) : Bool × Catalog :=
  match c.find? key with
  | none => (false, c)
  | some loaded =>
    -- The keys of its file stay noted: the next scan replaces them all.
    let freshness := match loaded.template.location? with
      | some file => c.freshness.forget file
      | none => c.freshness
    (true, { c with templates := c.templates.erase (Text.lowercase key), freshness })

/-- When everything is forgotten nothing is found. -/
@[simp] theorem find?_invalidate (c : Catalog) (key : String) : c.invalidate.find? key = none := rfl

end Catalog

end QueryBook
