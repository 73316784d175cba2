import QueryBook.Execution.Executor
import QueryBook.Postgres.ConnectionString

namespace QueryBook.Postgres

/-!
# The driver for Postgres

* `checkConnection` — whether connections can be made at all.
* `executor` — the driver, given what a server does.

Main statement: an empty batch needs no connection (`executeBatch_nil`).
-/

/-- Refuses a connection string that no connection can be made from. -/
def checkConnection (connection : String) : Except Error Unit :=
  match databaseName connection with
  | .ok _ => .ok ()
  | .error fault => .error (.poolRefused ("Config: " ++ fault.message))

/-- The driver for Postgres, given what a server does with connection strings that pass. -/
def executor {σ : Type} (server : Executor σ) : Executor σ where
  dialect := .postgres
  execute connection s inTransaction := do
    checkConnection connection
    server.execute connection s inTransaction
  executeBatch connection b inTransaction := do
    if b.sets.isEmpty then pure 0
    else
      checkConnection connection
      server.executeBatch connection b inTransaction
  query connection s inTransaction := do
    checkConnection connection
    server.query connection s inTransaction
  queryMultiple connection ss inTransaction := do
    checkConnection connection
    server.queryMultiple connection ss inTransaction
  testConnection connection := do
    checkConnection connection
    server.testConnection connection

/-- The driver, in words. -/
def describe : String := "PostgresExecutor \x7b .. \x7d"

/-- A batch without calls changes no rows and asks nothing of the server. -/
@[simp] theorem executeBatch_nil {σ : Type} (server : Executor σ) (connection sql : String)
    (inTransaction : Bool) :
    (executor server).executeBatch connection ⟨sql, []⟩ inTransaction = pure 0 := rfl

end QueryBook.Postgres
