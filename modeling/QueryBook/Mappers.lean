import QueryBook.Dictionary
import QueryBook.Error
import QueryBook.Rows

namespace QueryBook

/-!
# Mappers of rows

* `Mappers` — for the types that templates announce, how a row becomes a value.
* `Mappers.mapRows` — the values of all rows, or the first error.
-/

/-- Makes a value of a row. -/
abbrev RowMapper := Row → Except Error Json

/-- Mappers by the type that they are for. -/
abbrev Mappers := Dictionary ResultBinding RowMapper

namespace Mappers

/-- The mapper for the type that a template announces. -/
def mapperFor (m : Mappers) (key : String) (binding : Option ResultBinding) :
    Except Error RowMapper :=
  match binding with
  | none => .error (.noResultModel key)
  | some b =>
    match m.get? b with
    | some mapper => .ok mapper
    | none => .error (.noRowMapper b key)

/-- The values of all rows. -/
def mapRows (m : Mappers) (key : String) (binding : Option ResultBinding) (rows : RowSet) :
    Except Error (List Json) := do
  let mapper ← m.mapperFor key binding
  rows.rows.mapM mapper

/-- The number of mappers, in words. -/
def describe (m : Mappers) : String :=
  "RowMapperRegistry \x7b mappers: " ++ m.size.repr ++ " \x7d"

end Mappers

end QueryBook
