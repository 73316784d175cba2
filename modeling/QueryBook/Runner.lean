import QueryBook.Catalog.Scan
import QueryBook.Config
import QueryBook.Execution.Retry
import QueryBook.Mappers
import QueryBook.Page

namespace QueryBook

open Files (Disk FilePath)

/-!
# Running templates

A runner finds the template of a key, resolves it for a call, hands it to the driver of its dialect
with the string of its connection, and shapes what comes back.

* `Setting`, `Work` — what calls work on: the catalog, the databases, and the waits that were made.
* `Runner` — connection strings, drivers, mappers and the retry policy.
* `Runner.route`, `Runner.attempt` — the driver and the string for a statement; a call of a driver
  under the policy.
* `Runner.executeNonQuery`, …, `Runner.queryPage`, `Runner.testConnection` — the calls.

Main statement: an attempt is what the policy makes of the action (`attempt_run`).
-/

/-- What calls work on. -/
structure Setting (σ : Type) where
  catalog : Catalog
  databases : σ
  /-- The milliseconds of each wait so far. -/
  waits : List Nat := []

/-- A call, which may fail. -/
abbrev Work (σ : Type) (α : Type) := ExceptT Error (StateM (Setting σ)) α

/-- Makes a call. -/
def Work.perform {σ α : Type} (w : Work σ α) (s : Setting σ) : Except Error α × Setting σ :=
  w.run.run s

/-- Runs templates. -/
structure Runner (σ : Type) where
  connections : Connections
  executors : Executors (Executor σ)
  mappers : Mappers := Dictionary.empty
  retry : RetryPolicy := .default

namespace Runner

variable {σ α : Type}

/-- The runner of a configuration, and an empty catalog at the directory that it finds. -/
def ofConfig (c : Config) (programDirectory : FilePath) (executors : Executors (Executor σ))
    (disk : Disk) : Except Error (Runner σ × Catalog) := do
  let catalog ← Catalog.ofOptions (c.searchOptions programDirectory) disk
  .ok ({ connections := c.connections, executors, retry := c.retry }, catalog)

/-! ### The steps of a call -/

/-- The template of a key, given the files as they are now. -/
def findTemplate (disk : Disk) (key : String) : Work σ Template :=
  ExceptT.mk fun s =>
    let (found, catalog) := s.catalog.lookup disk key
    (found.map Loaded.template, { s with catalog })

/-- The template of a key, resolved for one call. -/
def resolve (disk : Disk) (key : String) (p : Parameters) : Work σ Statement := do
  let t ← findTemplate disk key
  t.resolve p

/-- The driver and the connection string for a statement. -/
def route (r : Runner σ) (s : Statement) : Except Error (Executor σ × String) := do
  let executor ← r.executors.lookup s.dialect
  let connection ← r.connections.lookup s.connection
  .ok (executor, connection)

/-- Calls a driver under the retry policy. -/
def attempt (r : Runner σ) (a : Action σ α) : Work σ α :=
  ExceptT.mk fun s =>
    let t := r.retry.trace a s.databases
    (t.outcome, { s with databases := t.state, waits := s.waits ++ t.waits })

/-- The outcome of an attempt, the databases behind it and its waits are those of the policy. -/
theorem attempt_run (r : Runner σ) (a : Action σ α) (s : Setting σ) :
    (r.attempt a).perform s =
      let t := r.retry.trace a s.databases
      (t.outcome, { s with databases := t.state, waits := s.waits ++ t.waits }) := rfl

/-- Calls a driver once and says whether it succeeded. -/
def observe (a : Action σ Unit) : Work σ Bool :=
  ExceptT.mk fun s =>
    let (outcome, databases) := a.perform s.databases
    (.ok (outcome matches .ok _), { s with databases })

/-! ### Commands -/

/-- Runs a command and counts the rows that it changed. -/
def executeNonQuery (r : Runner σ) (disk : Disk) (key : String) (p : Parameters)
    (inTransaction : Bool) : Work σ Nat := do
  let s ← resolve disk key p
  let (executor, connection) ← r.route s
  r.attempt (executor.execute connection s.bind inTransaction)

/-- Runs a command once for each of several calls and sums the counts. The text and the connection
    are those of the first call. -/
def executeBatch (r : Runner σ) (disk : Disk) (key : String) (calls : List Parameters)
    (inTransaction : Bool) : Work σ Nat := do
  let t ← findTemplate disk key
  let batch ← t.resolveBatch calls
  -- Nothing to run: no driver and no connection are looked for.
  if batch.sets.isEmpty then pure 0
  else do
    let (executor, connection) ← r.route batch.statement
    r.attempt (executor.executeBatch connection batch.bind inTransaction)

/-! ### Queries -/

/-- Runs a query. -/
def fetch (r : Runner σ) (disk : Disk) (key : String) (p : Parameters) (inTransaction : Bool) :
    Work σ (Statement × RowSet) := do
  let s ← resolve disk key p
  let (executor, connection) ← r.route s
  let rows ← r.attempt (executor.query connection s.bind inTransaction)
  pure (s, rows)

/-- The first value of the first row. -/
def executeScalar (r : Runner σ) (disk : Disk) (key : String) (p : Parameters)
    (inTransaction : Bool) : Work σ (Option Value) := do
  let (_, rows) ← r.fetch disk key p inTransaction
  pure rows.scalar?

/-- The rows as objects. -/
def queryForList (r : Runner σ) (disk : Disk) (key : String) (p : Parameters)
    (inTransaction : Bool) : Work σ (List Json) := do
  let (_, rows) ← r.fetch disk key p inTransaction
  pure rows.toJson

/-- The first row as an object. -/
def queryForObject (r : Runner σ) (disk : Disk) (key : String) (p : Parameters)
    (inTransaction : Bool) : Work σ (Option Json) := do
  let (_, rows) ← r.fetch disk key p inTransaction
  pure (rows.rows.head?.map Row.toJson)

/-- The rows, read as objects of a wanted type. -/
def queryAs (r : Runner σ) (read : Json → Except Json.Fault α) (disk : Disk) (key : String)
    (p : Parameters) (inTransaction : Bool) : Work σ (List α) := do
  let (_, rows) ← r.fetch disk key p inTransaction
  rows.readAs read

/-- What a mapper makes of the rows. -/
def queryMapped (r : Runner σ) (mapper : Row → Except Error α) (disk : Disk) (key : String)
    (p : Parameters) (inTransaction : Bool) : Work σ (List α) := do
  let (_, rows) ← r.fetch disk key p inTransaction
  (rows.rows.mapM mapper : Except Error (List α))

/-- What the mapper for the type that the template announces makes of the rows. -/
def queryBound (r : Runner σ) (disk : Disk) (key : String) (p : Parameters)
    (inTransaction : Bool) : Work σ (List Json) := do
  let (s, rows) ← r.fetch disk key p inTransaction
  r.mappers.mapRows s.key s.binding rows

/-- Runs each of the statements of a template's text, on one connection. -/
def queryMultiple (r : Runner σ) (disk : Disk) (key : String) (p : Parameters)
    (inTransaction : Bool) : Work σ (List RowSet) := do
  let s ← resolve disk key p
  let (executor, connection) ← r.route s
  r.attempt (executor.queryMultiple connection s.bindEach inTransaction)

/-- The rows of a template's first statement and the number that its second one gives. -/
def queryPage (r : Runner σ) (read : Json → Except Json.Fault α) (disk : Disk) (key : String)
    (p : Parameters) (inTransaction : Bool) : Work σ (Page α) := do
  let sets ← r.queryMultiple disk key p inTransaction
  Page.ofSets key read sets

/-! ### Connections -/

/-- Whether the connection of a template can be opened. A driver's failure is no error. -/
def testConnection (r : Runner σ) (disk : Disk) (key : String) (p : Parameters) : Work σ Bool := do
  let s ← resolve disk key p
  let (executor, connection) ← r.route s
  observe (executor.testConnection connection)

end Runner

end QueryBook
