import QueryBook.Catalog.SearchPath
import QueryBook.Connections
import QueryBook.Execution.Retry
import QueryBook.Json.Decode

namespace QueryBook

open Files (Disk FilePath)
open Json (Reader RecordField readOptional readRecord readString readTextList readTextMap
  readUnsigned)

/-!
# Configuration

* `Config` — where templates are, the connection strings, and how failures are tried again.
* `Config.ofJson`, `Config.ofFile` — reading one. Every field may be missing.
* `Environment`, `Config.withEnvironment` — variables that have the last word on two of the fields.
* `Config.searchOptions`, `Config.connections` — what follows from a configuration.
-/

/-- A configuration. -/
structure Config where
  /-- The only directory with templates, if it is given. -/
  templateRoot : Option FilePath := none
  installDirectory : Option FilePath := none
  configuredPath : Option FilePath := none
  /-- The connection of templates that name none. -/
  defaultConnection : Option String := none
  /-- The connection strings by name, as the names are written. -/
  connectionStrings : Dictionary String String := .empty
  retry : RetryPolicy := .default

/-! ### Reading -/

/-- A retry policy; what is missing is as usual. -/
def RetryPolicy.read : Reader RetryPolicy :=
  readRecord "struct RetryPolicy"
    [{ name := "max_retries"
       read := fun p cs => do
        let (n, rest) ← readUnsigned (UInt32.size - 1) "u32" cs
        .ok ({ p with maxRetries := n }, rest) },
     { name := "backoff_ms"
       read := fun p cs => do
        let (n, rest) ← readUnsigned (UInt64.size - 1) "u64" cs
        .ok ({ p with backoff := n }, rest) },
     { name := "transient_markers"
       read := fun p cs => do
        let (markers, rest) ← readTextList cs
        .ok ({ p with markers }, rest) }]
    .default

namespace Config

/-- A path or `null`. -/
def readPath : Reader (Option FilePath) := fun cs => do
  let (text, rest) ← readOptional (readString "path string") cs
  .ok (text.map FilePath.mk, rest)

/-- The fields of a configuration, in order. Three of them have a second name. -/
def fields : List (RecordField Config) :=
  [{ name := "template_root"
     read := fun c cs => do
      let (path, rest) ← readPath cs
      .ok ({ c with templateRoot := path }, rest) },
   { name := "install_dir"
     read := fun c cs => do
      let (path, rest) ← readPath cs
      .ok ({ c with installDirectory := path }, rest) },
   { name := "sql_config_path"
     otherName := some "SqlConfigPath"
     read := fun c cs => do
      let (path, rest) ← readPath cs
      .ok ({ c with configuredPath := path }, rest) },
   { name := "default_connection_name"
     otherName := some "DbContext"
     read := fun c cs => do
      let (name, rest) ← readOptional (readString "a string") cs
      .ok ({ c with defaultConnection := name }, rest) },
   { name := "connection_strings"
     otherName := some "ConnectionStrings"
     read := fun c cs => do
      let (entries, rest) ← readTextMap cs
      .ok ({ c with connectionStrings := Dictionary.ofList entries }, rest) },
   { name := "retry"
     read := fun c cs => do
      let (retry, rest) ← RetryPolicy.read cs
      .ok ({ c with retry }, rest) }]

/-- The configuration that a JSON text holds. -/
def ofJson (text : String) : Except Error Config :=
  match Json.decode (readRecord "struct EngineConfig" fields {}) text with
  | .ok c => .ok c
  | .error fault => .error (.invalidConfig fault)

/-- The configuration that a file holds. -/
def ofFile (disk : Disk) (path : FilePath) : Except Error Config :=
  match disk.readText path with
  | .ok text => ofJson text
  | .error fault => .error (.unreadableConfig path.text fault)

end Config

/-! ### The environment -/

/-- What the environment says about templates. -/
structure Environment where
  configuredPath : Option FilePath := none
  defaultConnection : Option String := none

/-- The variable that names a directory with templates. -/
def pathVariable : String := "SQL_CONFIG_PATH"

/-- The variable that names the connection of templates that name none. -/
def connectionVariable : String := "SQL_CONN_STRING_NAME"

/-- What variables say. An empty path and a blank name say nothing. -/
def Environment.ofVariables (vars : Dictionary String String) : Environment where
  configuredPath := ((vars.get? pathVariable).filter fun s => !s.isEmpty).map FilePath.mk
  defaultConnection := (vars.get? connectionVariable).filter fun s => !Text.isBlank s

/-- The search around an installation, as the environment says. -/
def Environment.searchOptions (e : Environment) (installDirectory : FilePath) : SearchOptions :=
  { SearchOptions.discover installDirectory with
    configuredPath := e.configuredPath
    defaultConnection := e.defaultConnection.getD defaultConnectionName }

namespace Config

/-- A configuration with what the environment says in the place of its own. -/
def withEnvironment (c : Config) (e : Environment) : Config :=
  { c with
    configuredPath := e.configuredPath <|> c.configuredPath
    defaultConnection := e.defaultConnection <|> c.defaultConnection }

/-! ### What follows -/

/-- Where templates are looked for, given the directory of the program. A blank name of a connection
    counts as none. -/
def searchOptions (c : Config) (programDirectory : FilePath) : SearchOptions where
  root := c.templateRoot
  installDirectory := c.installDirectory.getD programDirectory
  configuredPath := c.configuredPath
  defaultConnection :=
    (c.defaultConnection.filter fun s => !Text.isBlank s).getD defaultConnectionName

/-- The connection strings, with names that count as the same brought together. -/
def connections (c : Config) : Connections := Connections.ofList c.connectionStrings.entries

/-- An environment without variables changes nothing. -/
@[simp] theorem withEnvironment_empty (c : Config) : c.withEnvironment {} = c := rfl

/-- Apart from the environment and the fields, a search is the usual one. -/
@[simp] theorem searchOptions_empty (programDirectory : FilePath) :
    ({} : Config).searchOptions programDirectory = SearchOptions.discover programDirectory := rfl

end Config

end QueryBook
