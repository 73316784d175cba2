import QueryBook.Bound
import QueryBook.Rows

namespace QueryBook

/-!
# Executors

* `Action` — what may fail and may change the state `σ` of the databases.
* `Executor` — what a driver does with bound statements.
* `Executors` — the drivers by the dialect that they serve.
-/

/-- An action on databases whose state is `σ`. -/
abbrev Action (σ : Type) (α : Type) := ExceptT Error (StateM σ) α

/-- Runs an action. -/
def Action.perform {σ α : Type} (a : Action σ α) (s : σ) : Except Error α × σ := a.run.run s

/-- What a driver does, given a connection string and whether to use a transaction. -/
structure Executor (σ : Type) where
  dialect : Dialect
  /-- Runs a command and counts the rows that it changed. -/
  execute : String → BoundStatement → Bool → Action σ Nat
  /-- Runs a command once for each list of values and sums the counts. -/
  executeBatch : String → BoundBatch → Bool → Action σ Nat
  /-- Runs a query. -/
  query : String → BoundStatement → Bool → Action σ RowSet
  /-- Runs several queries on one connection. -/
  queryMultiple : String → List BoundStatement → Bool → Action σ (List RowSet)
  /-- Opens the connection. -/
  testConnection : String → Action σ Unit

/-- What is registered for the dialects. -/
abbrev Executors (ε : Type) := Dictionary Dialect ε

namespace Executors

/-- Registers something for a dialect, in the place of what was there. -/
def register {ε : Type} (e : Executors ε) (dialect : Dialect) (executor : ε) : Executors ε :=
  e.insert dialect executor

/-- What is registered for a dialect. -/
def lookup {ε : Type} (e : Executors ε) (dialect : Dialect) : Except Error ε :=
  match e.get? dialect with
  | some executor => .ok executor
  | none => .error (.noExecutor dialect)

/-- The dialects that something is registered for, in the order of their words. -/
def dialects {ε : Type} (e : Executors ε) : List Dialect :=
  Dialect.all.filter fun d => e.contains d

/-- The name of a dialect in a description. -/
def nameOf : Dialect → String
  | .sqlServer => "SqlServer"
  | .mySql => "MySql"
  | .sqlite => "Sqlite"
  | .postgres => "Postgres"

/-- The dialects, in words. -/
def describe {ε : Type} (e : Executors ε) : String :=
  "ExecutorRegistry \x7b dialects: [" ++ ", ".intercalate (e.dialects.map nameOf) ++ "] \x7d"

end Executors

end QueryBook
