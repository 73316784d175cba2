namespace QueryBook.Sqlite.KeyValue

/-!
# The statements of a table of keys and values

A small database, for trying the driver without a file, knows the statements below. Each of them has
one text.

* `Command` — the statements.
* `Command.sql`, `Command.ofSql?` — their texts, and back.
* `Command.arity`, `Command.needs`, `Command.changesRows` — how many cells a statement takes, what
  it asks of the table, and whether it counts rows.
* `Fault` — why a statement fails.
-/

/-- A statement. -/
inductive Command where
  | create
  | insert
  | update
  | delete
  | clear
  | all
  | get
  | count
  | start
  | commit
  | rollback
  /-- Gives back as many cells as it takes. -/
  | echo (width : Nat)
deriving DecidableEq, Repr

/-- What a statement asks of the table. -/
inductive Need where
  | present
  | absent
  | nothing

namespace Command

/-- The columns that a statement gives. -/
def columns : Command → List String
  | all => ["k", "v"]
  | get => ["v"]
  | count => ["n"]
  | echo width => (List.range width).map fun i => "c" ++ (i + 1).repr
  | _ => []

/-- The text of a statement. -/
def sql : Command → String
  | create => "CREATE TABLE t (k INTEGER PRIMARY KEY, v)"
  | insert => "INSERT INTO t (k, v) VALUES (?1, ?2)"
  | update => "UPDATE t SET v = ?2 WHERE k = ?1"
  | delete => "DELETE FROM t WHERE k = ?1"
  | clear => "DELETE FROM t"
  | all => "SELECT k, v FROM t ORDER BY k"
  | get => "SELECT v FROM t WHERE k = ?1"
  | count => "SELECT COUNT(*) AS n FROM t"
  | start => "BEGIN"
  | commit => "COMMIT"
  | rollback => "ROLLBACK"
  | echo width =>
    "SELECT " ++ ", ".intercalate ((List.range width).map fun i =>
      let place := (i + 1).repr
      "?" ++ place ++ " AS c" ++ place)

/-- The statement that gives back the cells of a text with as many marks. -/
def echoOf (text : String) : Command := echo (text.toList.count '?')

/-- The statement of a text. -/
def ofSql? (text : String) : Option Command :=
  [create, insert, update, delete, clear, all, get, count, start, commit, rollback,
    echoOf text].find? fun c => c.sql == text

/-- How many cells a statement takes. -/
def arity : Command → Nat
  | insert | update => 2
  | delete | get => 1
  | echo width => width
  | _ => 0

/-- What a statement asks of the table. -/
def needs : Command → Need
  | create => .absent
  | insert | update | delete | clear | all | get | count => .present
  | start | commit | rollback | echo _ => .nothing

/-- Whether a statement changes rows, so that it counts them. -/
def changesRows : Command → Bool
  | insert | update | delete | clear => true
  | _ => false

/-- A statement that is read from a text has this text. -/
theorem sql_of_ofSql? {text : String} {c : Command} (h : ofSql? text = some c) : c.sql = text := by
  simpa using List.find?_some h

end Command

/-- Why a statement fails. -/
inductive Fault where
  | notUnderstood (text : String)
  | noTable
  | tableExists
  | duplicateKey
  /-- A row whose key is no whole number. -/
  | keyMismatch
  | wrongCount (given needed : Nat)
  /-- A query that was run as a command. -/
  | gaveRows
  | transactionOpen
  | nothingToCommit
  | nothingToRollBack
deriving DecidableEq, Repr

/-- The wording of a fault. -/
def Fault.message : Fault → String
  | notUnderstood text => "not a statement of this database: " ++ text
  | noTable => "no such table: t"
  | tableExists => "table t already exists"
  | duplicateKey => "UNIQUE constraint failed: t.k"
  | keyMismatch => "datatype mismatch"
  | wrongCount given needed =>
    "Wrong number of parameters passed to query. Got " ++ given.repr ++ ", needed " ++ needed.repr
  | gaveRows => "Execute returned results - did you mean to call query?"
  | transactionOpen => "cannot start a transaction within a transaction"
  | nothingToCommit => "cannot commit - no transaction is active"
  | nothingToRollBack => "cannot rollback - no transaction is active"

end QueryBook.Sqlite.KeyValue
