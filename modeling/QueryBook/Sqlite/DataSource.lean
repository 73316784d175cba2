import QueryBook.Error
import QueryBook.Text.LowerCase
import QueryBook.Text.Search
import QueryBook.Text.Split

namespace QueryBook.Sqlite

/-!
# Which database a connection string names

A connection string is the path of a database, or pairs `key=value` with semicolons between them, of
which the first one with a key for the data source counts.

* `databasePath` — the path that a connection string names.
-/

/-- Whether a key stands for the data source. -/
def isDataSource (key : List Char) : Bool :=
  let key := String.ofList (Text.trimChars key)
  ["data source", "datasource", "filename"].any (Text.sameIgnoringAsciiCase key)

/-- Whether a text is a path as it stands: without any pair, or an address of a file. -/
def isPlainPath (cs : List Char) : Bool :=
  !cs.contains '=' || (Text.stripStart? "file:".toList cs).isSome

/-- The value of the first pair whose key stands for the data source. -/
def dataSource? (cs : List Char) : Option (List Char) :=
  (((Text.splitChar ';' cs).filterMap (Text.cutAtChar? '=')).find? fun (key, _) =>
    isDataSource key).map fun (_, value) => Text.trimChars value

/-- The path of the database that a connection string names. -/
def databasePath (connection : String) : Except Error String :=
  let cs := Text.trimChars connection.toList
  if cs.isEmpty then .error .emptyDataSource
  else if isPlainPath cs then .ok (String.ofList cs)
  else
    -- The first such key counts, even if its value is empty.
    match (dataSource? cs).filter fun value => !value.isEmpty with
    | some value => .ok (String.ofList value)
    | none => .error (.noDataSource (String.ofList cs))

end QueryBook.Sqlite
