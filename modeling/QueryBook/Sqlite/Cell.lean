import QueryBook.Value

namespace QueryBook.Sqlite

/-!
# SQLite's values

* `Cell` — what SQLite stores.
* `Cell.ofValue`, `Cell.toValue` — values on their way into a database and out of it.
-/

/-- A value of one of the five storage classes. -/
inductive Cell where
  | null
  | integer (n : Int64)
  | real (x : Float)
  | text (s : String)
  | blob (bytes : List UInt8)

namespace Cell

instance : Inhabited Cell := ⟨null⟩

/-- The cell that a value is bound as. -/
def ofValue : Value → Cell
  | .int n => integer n
  | .float x => real x
  | .text s | .sqlLiteral s => text s
  | .bool b => integer (if b then 1 else 0)
  | .timestamp t => text t.text
  | .null => null
  | .json j => text j.compact
  | .blob bytes => blob bytes

/-- The value that a cell is read as. -/
def toValue : Cell → Value
  | null => .null
  | integer n => .int n
  | real x => .float x
  | text s => .text s
  | blob bytes => .blob bytes

/-- What is read is bound as it was. -/
@[simp] theorem ofValue_toValue (c : Cell) : ofValue c.toValue = c := by cases c <;> rfl

end Cell

end QueryBook.Sqlite
