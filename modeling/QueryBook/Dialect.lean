import QueryBook.Text.Blank
import QueryBook.Text.LowerCase

namespace QueryBook

/-!
# Dialects

The database families a template is written for, and how each marks the place of a bound value.

* `Dialect`, `Dialect.parse?` — the families, and the words that name them.
* `PlaceholderStyle` — the marks of the drivers.
-/

/-- A database family. -/
inductive Dialect where
  | sqlServer
  | mySql
  | sqlite
  | postgres
deriving DecidableEq, Repr

/-- How a driver marks the place of a bound value. -/
inductive PlaceholderStyle where
  /-- A number behind a dollar sign. -/
  | dollar
  /-- A number behind a question mark. -/
  | numbered
  /-- A bare question mark, one value for each. -/
  | anonymous
  /-- A name made of `P` and a number. -/
  | named
deriving DecidableEq, Repr

namespace Dialect

/-- The word for a dialect in template files. -/
def tag : Dialect → String
  | sqlServer => "sqlserver"
  | mySql => "mysql"
  | sqlite => "sqlite"
  | postgres => "postgres"

/-- The dialects in the order of their words. -/
def all : List Dialect := [mySql, postgres, sqlite, sqlServer]

/-- The words that name a dialect. -/
def words : Dialect → List String
  | sqlServer => ["sqlserver", "mssql"]
  | mySql => ["mysql"]
  | sqlite => ["sqlite"]
  | postgres => ["postgres", "postgresql"]

/-- The dialect that a word names; blanks around it and the case of ASCII letters do not count. -/
def parse? (word : String) : Option Dialect :=
  all.find? fun d => d.words.contains (Text.asciiLowercase (Text.trim word))

/-- The marks of a dialect's driver. -/
def placeholderStyle : Dialect → PlaceholderStyle
  | sqlServer => .named
  | mySql => .anonymous
  | sqlite => .numbered
  | postgres => .dollar

/-- Every dialect is listed. -/
theorem mem_all (d : Dialect) : d ∈ all := by cases d <;> simp [all]

end Dialect

end QueryBook
