import QueryBook.Execution.Executor
import QueryBook.Sqlite.Cell

namespace QueryBook.Sqlite

/-!
# Open databases

* `Engine` — what an open database does, with its state `σ`.
* `Engine.within` — work inside a transaction, or as it stands.
* `Engine.executeBound`, `Engine.executeAll`, `Engine.queryBound` — the work itself.

Main statements: work as it stands is not wrapped in anything (`within_false`), and inside a
transaction that cannot be started nothing is done (`within_of_start_error`).
-/

/-- What a statement gives: the names of its columns, and its rows. -/
structure Answer where
  columns : List String := []
  rows : List (List Cell) := []

/-- The rows of an answer as values. -/
def Answer.toRowSet (a : Answer) : RowSet :=
  (a.rows.map fun row => row.map Cell.toValue).foldl RowSet.add (RowSet.setColumns {} a.columns)

/-- What an open database does, given a text and the cells for its marks. -/
structure Engine (σ : Type) where
  /-- Runs a statement that gives no rows and counts the rows that it changed. -/
  execute : String → List Cell → Action σ Nat
  /-- Runs a statement and fetches its rows. -/
  query : String → List Cell → Action σ Answer
  /-- Starts a transaction. -/
  start : Action σ Unit
  /-- Ends a transaction and keeps what was done. -/
  commit : Action σ Unit
  /-- Ends a transaction, if there is one, and takes back what was done. -/
  abandon : σ → σ

namespace Engine

variable {σ α : Type}

/-- Work inside a transaction of its own, or as it stands. If the work or the end of the transaction
    fails, the transaction is abandoned. -/
def within (e : Engine σ) (inTransaction : Bool) (work : Action σ α) : Action σ α :=
  if inTransaction then
    ExceptT.mk fun s =>
      match e.start.perform s with
      | (.error fault, s) => (.error fault, s)
      | (.ok (), s) =>
        -- The end of the transaction may fail like the work itself.
        let whole : Action σ α := do
          let a ← work
          e.commit
          pure a
        match whole.perform s with
        | (.ok a, s) => (.ok a, s)
        | (.error fault, s) => (.error fault, e.abandon s)
  else work

/-- Runs a bound statement that gives no rows. -/
def executeBound (e : Engine σ) (sql : String) (values : List Value) : Action σ Nat :=
  e.execute sql (values.map Cell.ofValue)

/-- Runs a text once for each list of values and sums the counts. -/
def executeAll (e : Engine σ) (sql : String) : List (List Value) → Action σ Nat
  | [] => pure 0
  | values :: sets => do
    let n ← e.executeBound sql values
    let rest ← e.executeAll sql sets
    pure (n + rest)

/-- Runs a bound statement and fetches its rows. -/
def queryBound (e : Engine σ) (s : BoundStatement) : Action σ RowSet := do
  let answer ← e.query s.sql (s.values.map Cell.ofValue)
  pure answer.toRowSet

@[simp] theorem within_false (e : Engine σ) (work : Action σ α) : e.within false work = work := rfl

/-- If no transaction can be started nothing is done in it. -/
theorem within_of_start_error (e : Engine σ) (work : Action σ α) {s s' : σ} {fault : Error}
    (h : e.start.perform s = (.error fault, s')) :
    (e.within true work).perform s = (.error fault, s') := by
  simp only [Action.perform] at h
  simp [within, Action.perform, ExceptT.run, ExceptT.mk, StateT.run] at h ⊢
  simp [h]

end Engine

end QueryBook.Sqlite
