import QueryBook.Text.LowerCase
import QueryBook.Value

namespace QueryBook

/-!
# Rows

* `Row` — values with the names of their columns. There may be fewer values than names, or more.
* `Row.columnIndex?`, `Row.get?` — by name: the first column of exactly this name, or else the first
  one that differs only in the case of ASCII letters.
* `Row.toJson` — a row as an object; of columns of one name the last one stays.
* `RowSet` — the rows of a query.
-/

/-- A row of a table. -/
structure Row where
  columns : List String
  values : List Value

namespace Row

/-- The place of a column. -/
def columnIndex? (r : Row) (name : String) : Option Nat :=
  match r.columns.idxOf? name with
  | some i => some i
  -- An exact name wins over an earlier one of another case.
  | none => r.columns.findIdx? fun column => Text.sameIgnoringAsciiCase column name

/-- The value at a place. -/
def at? (r : Row) (i : Nat) : Option Value := r.values[i]?

/-- The value of a column. -/
def get? (r : Row) (name : String) : Option Value := (r.columnIndex? name).bind r.at?

/-- The members of the row as an object. -/
def members (r : Row) : List (String × Json) :=
  (r.columns.zip r.values).map fun (name, v) => (name, v.toJson)

/-- The row as an object. -/
def toJson (r : Row) : Json := .ofMembers r.members

end Row

/-- The rows of a query, or the number of rows that a command has changed. -/
structure RowSet where
  columns : Option (List String) := none
  rows : List Row := []
  affected : Nat := 0

namespace RowSet

/-- The outcome of a command that gives no rows. -/
def ofAffected (n : Nat) : RowSet := { affected := n }

/-- The set with names for the columns of its further rows. -/
def setColumns (s : RowSet) (columns : List String) : RowSet := { s with columns := some columns }

/-- The set with a row of values. Without names for the columns it stays as it is. -/
def add (s : RowSet) (values : List Value) : RowSet :=
  match s.columns with
  | some columns => { s with rows := s.rows ++ [⟨columns, values⟩], affected := s.affected + 1 }
  | none => s

/-- The set with a row of its own columns, which does not count. -/
def push (s : RowSet) (row : Row) : RowSet := { s with rows := s.rows ++ [row] }

/-- The first value of the first row. -/
def scalar? (s : RowSet) : Option Value := s.rows.head?.bind (·.at? 0)

/-- The rows as objects. -/
def toJson (s : RowSet) : List Json := s.rows.map Row.toJson

/-- A row that is added counts. -/
theorem affected_add {s : RowSet} {columns : List String} (values : List Value)
    (h : s.columns = some columns) : (s.add values).affected = s.affected + 1 := by
  simp [add, h]

end RowSet

end QueryBook
