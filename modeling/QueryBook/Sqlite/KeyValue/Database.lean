import QueryBook.Dictionary
import QueryBook.Sqlite.Engine
import QueryBook.Sqlite.KeyValue.Command

namespace QueryBook.Sqlite.KeyValue

/-!
# A table of keys and values

* `Database` — the table, if it was created, and what it was when the open transaction started.
* `Database.prepare` — what is looked at before a statement runs. The last sixteen statements stay
  prepared: one of them is not checked against the table again until its cells were counted.
* `Database.step` — running a statement.
* `engine`, `connect` — the database as an engine of the driver, and how one in memory is opened.

Main statements: a statement that fails leaves the table as it is (`table_step_of_error`), and a
transaction that is rolled back leaves the table of its start (`table_abandon`).
-/

/-- Cells by key. -/
abbrev Table := Dictionary Int64 Cell

/-- A table and its transaction. -/
structure Database where
  table : Option Table := none
  /-- What the table was when the open transaction started. -/
  saved : Option (Option Table) := none
  /-- How many rows the last command that changes rows has changed. -/
  changes : Nat := 0
  /-- The statements that stay prepared, the last one first. -/
  prepared : List Command := []

namespace Database

/-! ### Before a statement runs -/

/-- Whether the table is as a statement needs it. -/
def checkTable (db : Database) (c : Command) : Except Fault Unit :=
  match c.needs, db.table with
  | .present, none => .error .noTable
  | .absent, some _ => .error .tableExists
  | _, _ => .ok ()

/-- Whether a statement gets as many cells as it takes. Of too many cells the first one too many is
    the last one that counts. -/
def checkCells (c : Command) (cells : List Cell) : Except Fault Unit :=
  if cells.length = c.arity then .ok ()
  else .error (.wrongCount (min cells.length (c.arity + 1)) c.arity)

/-- The database with a statement that stays prepared. -/
def keep (db : Database) (c : Command) : Database :=
  { db with prepared := (c :: db.prepared.erase c).take 16 }

/-- The database after a statement failed while it ran: one that changes rows has changed none. -/
def failed (db : Database) (c : Command) : Database :=
  if c.changesRows then { db with changes := 0 } else db

/-- Looks at what a statement needs. -/
def prepare (db : Database) (c : Command) (cells : List Cell) : Except Fault Unit × Database :=
  if db.prepared.contains c then
    -- It was checked against the table when it was first prepared, so the cells come first.
    match checkCells c cells, db.checkTable c with
    | .error fault, _ => (.error fault, db.keep c)
    | .ok (), .error fault => (.error fault, (db.keep c).failed c)
    | .ok (), .ok () => (.ok (), db.keep c)
  else
    match db.checkTable c with
    | .error fault => (.error fault, db)
    | .ok () => (checkCells c cells, db.keep c)

/-! ### Transactions -/

/-- Starts a transaction. -/
def start (db : Database) : Except Fault Database :=
  match db.saved with
  | some _ => .error .transactionOpen
  | none => .ok { db with saved := some db.table }

/-- Ends the transaction and keeps what was done. -/
def commit (db : Database) : Except Fault Database :=
  match db.saved with
  | some _ => .ok { db with saved := none }
  | none => .error .nothingToCommit

/-- Ends the transaction, if there is one, and takes back what was done. -/
def abandon (db : Database) : Database :=
  match db.saved with
  | some table => { db with table, saved := none }
  | none => db

/-- Ends the transaction and takes back what was done. -/
def rollback (db : Database) : Except Fault Database :=
  if db.saved.isSome then .ok db.abandon else .error .nothingToRollBack

/-! ### Running a statement -/

/-- The database after a command that changed some rows. -/
def changed (db : Database) (table : Table) (rows : Nat) : Database :=
  { db with table := some table, changes := rows }

/-- The key that a cell stands for. -/
def keyOf? : Option Cell → Option Int64
  | some (.integer k) => some k
  | _ => none

/-- The cell as it is stored: a number that is none is not stored. -/
def stored : Option Cell → Cell
  | some (.real x) => if x.isNaN then .null else .real x
  | some cell => cell
  | none => .null

/-- The rows of a table in the order of their keys. -/
def rowsOf (t : Table) : List (List Cell) :=
  (t.entries.mergeSort fun a b => decide (a.1 ≤ b.1)).map fun (k, v) => [.integer k, v]

/-- Runs a statement that has what it needs, given the table: the rows that it gives, and the
    database behind it. -/
def act (db : Database) (t : Table) (c : Command) (cells : List Cell) :
    Except Fault (List (List Cell) × Database) :=
  let key? := keyOf? cells[0]?
  let present := key?.filter t.contains
  match c with
  | .create => .ok ([], { db with table := some .empty })
  | .insert =>
    match key? with
    | none => .error .keyMismatch
    | some k =>
      if t.contains k then .error .duplicateKey
      else .ok ([], db.changed (t.insert k (stored cells[1]?)) 1)
  | .update =>
    match present with
    | some k => .ok ([], db.changed (t.insert k (stored cells[1]?)) 1)
    | none => .ok ([], db.changed t 0)
  | .delete =>
    match present with
    | some k => .ok ([], db.changed (t.erase k) 1)
    | none => .ok ([], db.changed t 0)
  | .clear => .ok ([], db.changed .empty t.size)
  | .all => .ok (rowsOf t, db)
  | .get => .ok ((key?.bind t.get?).toList.map fun cell => [cell], db)
  | .count => .ok ([[.integer (Int64.ofNat t.size)]], db)
  | .start => db.start.map fun db => ([], db)
  | .commit => db.commit.map fun db => ([], db)
  | .rollback => db.rollback.map fun db => ([], db)
  | .echo _ => .ok ([cells.map fun cell => stored (some cell)], db)

/-- Runs a statement. -/
def step (db : Database) (c : Command) (cells : List Cell) :
    Except Fault (List (List Cell)) × Database :=
  match db.prepare c cells with
  | (.error fault, db) => (.error fault, db)
  | (.ok (), db) =>
    match db.act (db.table.getD .empty) c cells with
    | .ok (rows, db) => (.ok rows, db)
    | .error fault => (.error fault, db.failed c)

@[simp] theorem table_keep (db : Database) (c : Command) : (db.keep c).table = db.table := rfl

/-- A command that fails leaves the table as it is. -/
@[simp] theorem table_failed (db : Database) (c : Command) : (db.failed c).table = db.table := by
  unfold failed
  split <;> rfl

/-- To prepare a command leaves the table as it is. -/
@[simp] theorem table_prepare (db : Database) (c : Command) (cells : List Cell) :
    (db.prepare c cells).2.table = db.table := by
  unfold prepare
  split
  · split <;> simp
  · split <;> rfl

/-- A statement that fails leaves the table as it is. -/
theorem table_step_of_error {db db' : Database} {c : Command} {cells : List Cell} {fault : Fault}
    (h : db.step c cells = (.error fault, db')) : db'.table = db.table := by
  have hp := db.table_prepare c cells
  unfold step at h
  split at h
  · next prepared hprepare =>
    simp only [Prod.mk.injEq] at h
    rw [← h.2, ← hp, hprepare]
  · next prepared hprepare =>
    split at h
    · simp at h
    · simp only [Prod.mk.injEq] at h
      rw [← h.2, table_failed, ← hp, hprepare]

/-- A transaction that is rolled back leaves the table of its start. -/
theorem table_abandon {db : Database} {table : Option Table} (h : db.saved = some table) :
    db.abandon.table = table := by simp [abandon, h]

end Database

/-! ### The database as an engine -/

/-- A statement of a text, as an action of the driver. -/
def runText (text : String) (cells : List Cell) : Action Database (Command × List (List Cell)) :=
  ExceptT.mk fun db =>
    match Command.ofSql? text with
    | none => (.error (.reported .sqlite (Fault.notUnderstood text).message), db)
    | some c =>
      match db.step c cells with
      | (.ok rows, db) => (.ok (c, rows), db)
      | (.error fault, db) => (.error (.reported .sqlite fault.message), db)

/-- A step on the transaction, as an action of the driver. -/
def onTransaction (f : Database → Except Fault Database) : Action Database Unit :=
  ExceptT.mk fun db =>
    match f db with
    | .ok db => (.ok (), db)
    | .error fault => (.error (.reported .sqlite fault.message), db)

/-- The database as an engine. A statement that gives a row is no command; the count of one that
    changes no rows is the last one again. -/
def engine : Engine Database where
  execute text cells := do
    let (_, rows) ← runText text cells
    if rows.isEmpty then
      let db ← get
      pure db.changes
    else throw (.reported .sqlite Fault.gaveRows.message)
  query text cells := do
    let (c, rows) ← runText text cells
    pure ⟨c.columns, rows⟩
  start := onTransaction Database.start
  commit := onTransaction Database.commit
  abandon := Database.abandon

/-- Opens a database in memory; there is none in files. -/
def connect (path : String) : Except Error Database :=
  if path = ":memory:" then .ok {}
  else .error (.cannotOpen path ("unable to open database file: " ++ path))

end QueryBook.Sqlite.KeyValue
