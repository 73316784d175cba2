import QueryBook.Files.Path
import QueryBook.Template.Layout

namespace QueryBook

/-!
# Templates

* `Definition` — what a file says about a template.
* `Template` — a named query text with the dialect and the connection that it is for.
* `Template.ofDefinition` — gaps of a definition filled by defaults.
* `Template.key`, `Template.slots`, `Template.malformed` — what follows from its name and its text.
-/

/-- What a file says about a template. -/
structure Definition where
  name : String
  dialect : Dialect
  connection : Option String := none
  assembly : Option String := none
  className : Option String := none
  sql : String
deriving DecidableEq, Repr

/-- A named query text. -/
structure Template where
  name : String
  dialect : Dialect
  connection : String
  binding : Option ResultBinding
  sql : String
  /-- The file it was read from. -/
  source : Option Files.FilePath
deriving DecidableEq, Repr

/-- The connection of a template that names none. -/
def defaultConnectionName : String := "DbContext"

namespace Template

/-- The type of rows that a definition announces: only if both of its names are there. -/
def bindingOf (assembly className : Option String) : Option ResultBinding :=
  match assembly, className with
  | some a, some c => if Text.isBlank a || Text.isBlank c then none else some ⟨a, c⟩
  | _, _ => none

/-- The template of a definition. A blank name of a connection counts as none. -/
def ofDefinition (d : Definition) (connection : String) (source : Option Files.FilePath) :
    Template where
  name := d.name
  dialect := d.dialect
  connection := (d.connection.filter fun c => !Text.isBlank c).getD connection
  binding := bindingOf d.assembly d.className
  sql := d.sql
  source := source

/-- The key under which a template is found. -/
def key (t : Template) : String := Text.lowercase t.name

/-- The characters of the query text. -/
def text (t : Template) : List Char := t.sql.toList

/-- The directives of the text, by kind. -/
def directives (t : Template) : Extraction := extract t.text

/-- The directives of the text that count. -/
def slots (t : Template) : List Slot := layout t.text

/-- Whether the text holds a directive that splices values, even one that does not count. -/
def hasLiteral (t : Template) : Bool := !t.directives.literal.isEmpty

/-- The directives that count but refer to no parameter, as they are written, in order. -/
def malformed (t : Template) : List String :=
  (((keptDirectives t.text).filter Directive.isMalformed).map fun d =>
    String.ofList d.marker).mergeSort fun a b => decide (a ≤ b)

/-- Nothing spoils a template whose directives all refer to a parameter. -/
theorem malformed_eq_nil_iff {t : Template} :
    t.malformed = [] ↔ ∀ d ∈ keptDirectives t.text, d.isMalformed = false := by
  rw [malformed, ← List.length_eq_zero_iff, List.length_mergeSort, List.length_eq_zero_iff,
    List.map_eq_nil_iff, List.filter_eq_nil_iff]
  simp only [Bool.not_eq_true]

end Template

end QueryBook
