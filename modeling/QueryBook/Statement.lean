import QueryBook.Template.Rendering

namespace QueryBook

/-!
# Statements

A template resolved for one call, or for a batch of calls that share one text.

* `Statement`, `Template.resolve` — the text of one call with the parameters that it refers to.
* `Batch`, `Template.resolveBatch` — one text, made for the first call, and the parameters of each.
-/

/-- A template resolved for one call. -/
structure Statement where
  /-- The key of the template. -/
  key : String
  sql : String
  /-- The name of the connection that runs it. -/
  connection : String
  dialect : Dialect
  binding : Option ResultBinding
  /-- The values of the names that the template's own text refers to. -/
  parameters : Parameters

/-- One statement with the parameters of several calls. -/
structure Batch where
  statement : Statement
  sets : List Parameters

namespace Template

/-- The name of the connection for one call. -/
def connectionFor (t : Template) (p : Parameters) : String :=
  match p.connectionPrefix? with
  | some before => before ++ t.connection
  | none => t.connection

/-- Resolves a template for one call. A directive that counts but refers to no parameter spoils
    every call. -/
def resolve (t : Template) (p : Parameters) : Except Error Statement :=
  match t.malformed with
  -- The markers are sorted, so the first one of the alphabet is reported.
  | marker :: _ => .error (.malformedDirective t.name marker)
  | [] => do
    let pieces ← t.pieces p
    .ok {
      key := t.key
      sql := String.ofList (Piece.textOf pieces)
      connection := t.connectionFor p
      dialect := t.dialect
      binding := t.binding
      parameters := p.subset (Piece.namesOf pieces) }

/-- Resolves a template for the first of several calls; the others share its text, so that no value
    may be spliced into it. -/
def resolveBatch (t : Template) (calls : List Parameters) : Except Error Batch :=
  if t.hasLiteral then .error (.literalInBatch t.name)
  else do
    let statement ← t.resolve (calls.head?.getD Dictionary.empty)
    -- Read from the finished text: what stands in quotes counts too.
    let names := referencedNames statement.sql.toList
    .ok ⟨statement, calls.map fun p => p.subset names⟩

end Template

end QueryBook
