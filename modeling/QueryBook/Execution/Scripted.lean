import QueryBook.Execution.Executor

namespace QueryBook

/-!
# Executors that follow a script

An executor that touches no database: it answers from a script and keeps a record of what it was
asked.

* `Reply`, `Script` — the answers that are left, and the record.
* `Executor.scripted` — the executor. Behind the end of its script every call succeeds.
-/

/-- A scripted answer. -/
inductive Reply where
  | failure (e : Error)
  | affected (n : Nat)
  | rows (set : RowSet)
  | sets (sets : List RowSet)
  | done

/-- What an executor was asked to run. -/
inductive Request where
  | statement (s : BoundStatement)
  | batch (b : BoundBatch)
  | statements (ss : List BoundStatement)
  | nothing

/-- The methods of an executor. -/
inductive Method where
  | execute
  | executeBatch
  | query
  | queryMultiple
  | testConnection
deriving DecidableEq, Repr

/-- A call that an executor has received. -/
structure Call where
  executor : String
  method : Method
  connection : String
  inTransaction : Bool
  request : Request

/-- The answers that are left and the calls so far, the last one first. -/
structure Script where
  replies : List Reply := []
  calls : List Call := []

/-- Notes a call and takes the next answer. -/
def Script.answer (call : Call) : Action Script (Option Reply) :=
  ExceptT.mk fun s =>
    match s.replies with
    | [] => (.ok none, { s with calls := call :: s.calls })
    | .failure e :: rest => (.error e, ⟨rest, call :: s.calls⟩)
    | reply :: rest => (.ok (some reply), ⟨rest, call :: s.calls⟩)

/-- The executor of a name that answers from the script. -/
def Executor.scripted (dialect : Dialect) (name : String) : Executor Script where
  dialect
  execute connection s inTransaction := do
    match ← Script.answer ⟨name, .execute, connection, inTransaction, .statement s⟩ with
    | some (.affected n) => pure n
    | _ => pure 0
  executeBatch connection b inTransaction := do
    match ← Script.answer ⟨name, .executeBatch, connection, inTransaction, .batch b⟩ with
    | some (.affected n) => pure n
    | some _ => pure 0
    | none => pure b.sets.length
  query connection s inTransaction := do
    match ← Script.answer ⟨name, .query, connection, inTransaction, .statement s⟩ with
    | some (.rows set) => pure set
    | some (.affected n) => pure (.ofAffected n)
    | _ => pure {}
  queryMultiple connection ss inTransaction := do
    match ← Script.answer ⟨name, .queryMultiple, connection, inTransaction, .statements ss⟩ with
    | some (.sets sets) => pure sets
    | some _ => pure []
    | none => pure (ss.map fun _ => {})
  testConnection connection := do
    let _ ← Script.answer ⟨name, .testConnection, connection, false, .nothing⟩

end QueryBook
