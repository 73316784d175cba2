import QueryBook.Sqlite.DataSource
import QueryBook.Sqlite.Engine

namespace QueryBook.Sqlite

/-!
# The driver for SQLite

A database is opened when its connection string is first used, and stays open.

* `Databases`, `onDatabase` — the open databases, and work on one of them.
* `executor` — the driver.
-/

/-- The open databases by connection string. -/
abbrev Databases (σ : Type) := Dictionary String σ

/-- Work on the database of a connection string, which is opened if it is not open. -/
def onDatabase {σ α : Type} (connect : String → Except Error σ) (connection : String)
    (work : Action σ α) : Action (Databases σ) α :=
  ExceptT.mk fun databases =>
    match databasePath connection with
    | .error fault => (.error fault, databases)
    | .ok path =>
      -- Equal paths in different strings are different databases.
      match ((databases.get? connection).map Except.ok).getD (connect path) with
      | .error fault => (.error fault, databases)
      | .ok s =>
        let (outcome, s) := work.perform s
        (outcome, databases.insert connection s)

/-- The driver for SQLite, given an engine and how a database is opened. An empty batch needs no
    database. -/
def executor {σ : Type} (e : Engine σ) (connect : String → Except Error σ) :
    Executor (Databases σ) where
  dialect := .sqlite
  execute connection s inTransaction :=
    onDatabase connect connection (e.within inTransaction (e.executeBound s.sql s.values))
  executeBatch connection b inTransaction :=
    if b.sets.isEmpty then pure 0
    else onDatabase connect connection (e.within inTransaction (e.executeAll b.sql b.sets))
  query connection s inTransaction :=
    onDatabase connect connection (e.within inTransaction (e.queryBound s))
  queryMultiple connection ss inTransaction :=
    onDatabase connect connection (e.within inTransaction (ss.mapM e.queryBound))
  testConnection connection := onDatabase connect connection (pure ())

end QueryBook.Sqlite
