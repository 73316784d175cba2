import QueryBook.Error
import QueryBook.Files.Disk
import QueryBook.Template.Basic

namespace QueryBook

open Files (Disk FilePath)

/-!
# Where templates are looked for

* `SearchOptions` — a directory that is given, or the places around an installation.
* `SearchOptions.candidates`, `SearchOptions.resolveRoot` — the places in order, and the first of
  them that is a directory.
-/

/-- Where templates are looked for, and the connection of those that name none. -/
structure SearchOptions where
  /-- The only place, if it is given. -/
  root : Option FilePath
  installDirectory : FilePath
  configuredPath : Option FilePath
  defaultConnection : String
deriving DecidableEq, Repr

namespace SearchOptions

/-- The places around an installation. -/
def discover (installDirectory : FilePath) : SearchOptions :=
  ⟨none, installDirectory, none, defaultConnectionName⟩

/-- One directory that is given. -/
def rooted (root : FilePath) (installDirectory : FilePath) : SearchOptions :=
  { discover installDirectory with root := some root }

/-- The places in the order in which they are tried. -/
def candidates (o : SearchOptions) : List FilePath :=
  match o.root with
  | some root => [root]
  | none =>
    [(o.installDirectory.join "bin").join "SqlConfig", o.installDirectory.join "SqlConfig"] ++
      o.configuredPath.toList ++ [o.installDirectory]

/-- The first place that is a directory. -/
def resolveRoot (o : SearchOptions) (disk : Disk) : Except Error FilePath :=
  match o.candidates.find? disk.isDirectory with
  | some root => .ok root
  | none => .error (.noTemplateDirectory (o.candidates.map FilePath.text))

end SearchOptions

end QueryBook
