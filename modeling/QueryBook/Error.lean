import QueryBook.Dialect
import QueryBook.Files.Fault
import QueryBook.Json.Fault
import QueryBook.Value
import QueryBook.Xml.Fault

namespace QueryBook

/-!
# Errors

* `Error` — why a call fails, one constructor for each cause.
* `Error.kind`, `Error.detail`, `Error.message` — the class of an error, its wording without and
  with the words of the class.
* `Error.isTemplateFailure` — errors of the book itself rather than of a database.
-/

/-- The classes of errors. -/
inductive ErrorKind where
  | templateNotFound
  | template
  | load
  | sqlite
  | postgres
  | configuration
  | connection
  | parameter
  | execution
  | unimplemented
deriving DecidableEq, Repr

/-- The type of rows that a template announces: an assembly and a class in it. -/
structure ResultBinding where
  assembly : String
  className : String
deriving DecidableEq, Repr

/-- Why the definitions of a file are not loaded. -/
inductive LoadFault where
  | file (fault : Files.Fault)
  | document (fault : Xml.DocumentFault)
  | other (report : String)

/-- The wording of a load fault. -/
def LoadFault.message : LoadFault → String
  | .file fault => fault.message
  | .document fault => fault.message
  | .other report => report

/-- Why a call fails. -/
inductive Error where
  | templateNotFound (key : String)
  /-- A template whose directive refers to no parameter. -/
  | malformedDirective (template marker : String)
  /-- A batch of a template whose text varies with the values. -/
  | literalInBatch (template : String)
  /-- A directive's body that refers to no parameter. -/
  | noReference (body : String) (dialect : Dialect)
  | loadFailed (path : String) (fault : LoadFault)
  | unsupportedDialect (tag : String)
  | noTemplateDirectory (tried : List String)
  | invalidConfig (fault : Json.Fault)
  | unreadableConfig (path : String) (fault : Files.Fault)
  | blankConnection (name : String)
  | unknownConnection (name : String)
  | noResultModel (key : String)
  | noRowMapper (binding : ResultBinding) (key : String)
  /-- A connection string of blanks only, where a database file is wanted. -/
  | emptyDataSource
  /-- A connection string whose pairs name no database file. -/
  | noDataSource (connection : String)
  /-- A database file that cannot be opened. -/
  | cannotOpen (path report : String)
  /-- A connection string from which no pool of connections can be made. -/
  | poolRefused (report : String)
  /-- A row that is not of the wanted type. -/
  | rowMismatch (fault : Json.Fault)
  /-- A page whose template gives fewer than two sets of rows. -/
  | pageIncomplete (key : String) (sets : Nat)
  /-- A page whose total is not a whole number. -/
  | totalNotWhole (key : String) (total : Value)
  | noExecutor (dialect : Dialect)
  /-- A failure that a driver, a mapper or another outside party reports. -/
  | reported (kind : ErrorKind) (report : String)

namespace Error

/-- The class of an error. -/
def kind : Error → ErrorKind
  | templateNotFound _ => .templateNotFound
  | malformedDirective .. | literalInBatch _ | noReference .. => .template
  | loadFailed .. => .load
  | unsupportedDialect _ | noTemplateDirectory _ | invalidConfig _ | unreadableConfig ..
  | blankConnection _ | unknownConnection _ | noResultModel _ | noRowMapper ..
  | emptyDataSource | noDataSource _ => .configuration
  | cannotOpen .. | poolRefused _ => .connection
  | rowMismatch _ => .parameter
  | pageIncomplete .. | totalNotWhole .. => .execution
  | noExecutor _ => .unimplemented
  | reported kind _ => kind

/-- The wording without the words of the class. -/
def detail : Error → String
  | templateNotFound key => key
  | malformedDirective template marker =>
    "template `" ++ template ++ "` has a directive without @parameter reference: " ++ marker
  | literalInBatch template =>
    "template `" ++ template ++ "` uses literal substitution and cannot run as a batch"
  | noReference body dialect =>
    "directive `" ++ Text.trim body ++ "` for " ++ dialect.tag ++ " has no @parameter reference"
  | loadFailed path fault => path ++ ": " ++ fault.message
  | unsupportedDialect tag => "Unsupported database type: " ++ tag
  | noTemplateDirectory tried =>
    "No SQL template directory found (tried " ++ ", ".intercalate tried ++ ")"
  | invalidConfig fault => "Invalid engine config: " ++ fault.message
  | unreadableConfig path fault => "Failed to read " ++ path ++ ": " ++ fault.message
  | blankConnection name => "Connection string `" ++ name ++ "` is empty"
  | unknownConnection name => "No connection string configured for `" ++ name ++ "`"
  | noResultModel key => "Template `" ++ key ++ "` declares no result model"
  | noRowMapper binding key =>
    "No row mapper registered for " ++ binding.assembly ++ "." ++ binding.className ++
      " (template `" ++ key ++ "`)"
  | emptyDataSource => "SQLite connection string is empty"
  | noDataSource connection => "SQLite connection string has no Data Source: " ++ connection
  | cannotOpen path report => "Failed to open SQLite database " ++ path ++ ": " ++ report
  | poolRefused report => "Failed to create Postgres pool: " ++ report
  | rowMismatch fault => "Row does not match target type: " ++ fault.message
  | pageIncomplete key sets =>
    "Paged template `" ++ key ++ "` must return rows and a total (" ++ sets.repr ++
      " result set(s) returned)"
  | totalNotWhole key total =>
    "Paged template `" ++ key ++ "` returned a non-integer total: " ++ total.describe
  | noExecutor dialect => "No executor registered for database type `" ++ dialect.tag ++ "`"
  | reported _ report => report

/-- The words of a class. -/
def heading : ErrorKind → String
  | .templateNotFound => "No SQL template configured for key: "
  | .template => "Template error: "
  | .load => "Failed to load SQL templates from "
  | .sqlite | .postgres => ""
  | .configuration => "Configuration error: "
  | .connection => "Connection error: "
  | .parameter => "Parameter conversion error: "
  | .execution => "SQL execution error: "
  | .unimplemented => "Unimplemented feature: "

/-- The whole wording of an error. -/
def message (e : Error) : String := heading e.kind ++ e.detail

/-- Whether the book itself is at fault: no template, a bad one, or a file that does not load. -/
def isTemplateFailure (e : Error) : Bool :=
  match e.kind with
  | .templateNotFound | .template | .load => true
  | _ => false

end Error

end QueryBook
