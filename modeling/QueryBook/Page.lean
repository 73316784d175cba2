import QueryBook.Error
import QueryBook.Json.Decode
import QueryBook.Rows

namespace QueryBook

/-!
# Rows of a wanted type

* `Row.readAs`, `RowSet.readAs` — rows that are read as objects of a wanted type.
* `Page`, `Page.ofSets` — some of the rows of a query, and how many there are in all.
-/

/-- A row, read as an object of a wanted type. -/
def Row.readAs {α : Type} (read : Json → Except Json.Fault α) (r : Row) : Except Error α :=
  match read r.toJson with
  | .ok a => .ok a
  | .error fault => .error (.rowMismatch fault)

/-- The rows of a set, read as objects of a wanted type. -/
def RowSet.readAs {α : Type} (read : Json → Except Json.Fault α) (s : RowSet) :
    Except Error (List α) := s.rows.mapM (Row.readAs read)

/-- Some of the rows of a query, and the number of all. -/
structure Page (α : Type) where
  items : List α
  total : Int64
deriving DecidableEq, Repr

namespace Page

/-- The number that a set of rows gives: its first value, or zero if there is no row. -/
def totalOf (key : String) (s : RowSet) : Except Error Int64 :=
  match s.scalar? with
  | none => .ok 0
  | some (.int n) => .ok n
  | some v => .error (.totalNotWhole key v)

/-- The page that the sets of rows of a template give: the first one holds the items, the second one
    the total. The total is read first. -/
def ofSets {α : Type} (key : String) (read : Json → Except Json.Fault α) :
    List RowSet → Except Error (Page α)
  | page :: count :: _ => do
    -- A total that is no number is reported before a row that does not fit.
    let total ← totalOf key count
    let items ← page.readAs read
    .ok ⟨items, total⟩
  | sets => .error (.pageIncomplete key sets.length)

end Page

end QueryBook
