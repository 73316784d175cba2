import QueryBook.Sql.Placeholder
import QueryBook.Sql.Split
import QueryBook.Statement

namespace QueryBook

/-!
# Bound statements

What is handed to a driver: a text with its marks, and the values in order.

* `BoundStatement`, `BoundBatch` — one list of values, or one for each call of a batch.
* `Statement.bind`, `Statement.bindEach`, `Batch.bind` — a statement as a whole, each of the
  statements of its text, and a batch.
-/

/-- A text and the values for its marks. -/
structure BoundStatement where
  sql : String
  values : List Value

/-- A text and the values of several calls for its marks. -/
structure BoundBatch where
  sql : String
  sets : List (List Value)

/-- The values of some names; a name without value is bound as null. -/
def Parameters.valuesOf (p : Parameters) (names : List String) : List Value :=
  names.map fun name => (p.get? name).getD .null

/-- Binds the references of a text in a driver's style. -/
def bindText (text : List Char) (style : PlaceholderStyle) (p : Parameters) : BoundStatement :=
  let rewritten := Sql.rewrite style text
  ⟨String.ofList rewritten.sql, p.valuesOf rewritten.names⟩

/-- Binds a statement as a whole. -/
def Statement.bind (s : Statement) : BoundStatement :=
  bindText s.sql.toList s.dialect.placeholderStyle s.parameters

/-- Binds each of the statements of a statement's text. -/
def Statement.bindEach (s : Statement) : List BoundStatement :=
  (Sql.statements s.sql.toList).map fun part =>
    bindText part s.dialect.placeholderStyle s.parameters

/-- Binds a batch. -/
def Batch.bind (b : Batch) : BoundBatch :=
  let rewritten := Sql.rewrite b.statement.dialect.placeholderStyle b.statement.sql.toList
  ⟨String.ofList rewritten.sql, b.sets.map fun p => p.valuesOf rewritten.names⟩

/-- Every name has a value, be it null. -/
@[simp] theorem Parameters.length_valuesOf (p : Parameters) (names : List String) :
    (p.valuesOf names).length = names.length := by simp [valuesOf]

/-- A batch has as many lists of values as calls. -/
@[simp] theorem Batch.length_sets_bind (b : Batch) : b.bind.sets.length = b.sets.length := by
  simp [bind]

end QueryBook
