import QueryBook.Error
import QueryBook.Reference

namespace QueryBook

/-!
# Directives

A directive is a part of a template's text between two markers.

* `Directive.Kind` — kept if all its parameters are present (`<%= … %>`), replaced by the text of
  its parameters' values (`<R%= … %R>`), or kept always (`@@ … @@`).
* `Directive` — a kind, a place and a body; the ranges and the marker text follow from them.
* `Directive.Kind.render` — the text that a body gives for one call.
-/

/-- What becomes of a directive's body. -/
inductive Directive.Kind where
  /-- Kept if every parameter that it refers to is present, else dropped. -/
  | optional
  /-- Its parameters' values are spliced in as SQL text. -/
  | literal
  /-- Kept without its markers. -/
  | parameter
deriving DecidableEq, Repr

/-- A directive in a text, by the place of its opening marker. -/
structure Directive where
  kind : Directive.Kind
  start : Nat
  body : List Char
deriving DecidableEq, Repr

namespace Directive

/-- The marker before a body. -/
def Kind.opening : Kind → List Char
  | optional => ['<', '%', '=']
  | literal => ['<', 'R', '%', '=']
  | parameter => ['@', '@']

/-- The marker behind a body. -/
def Kind.closing : Kind → List Char
  | optional => ['%', '>']
  | literal => ['%', 'R', '>']
  | parameter => ['@', '@']

/-- No marker is empty. -/
theorem Kind.opening_length_pos (k : Kind) : 0 < k.opening.length := by cases k <;> simp [opening]

/-- The range of the body. -/
def bodySpan (d : Directive) : Text.Span :=
  let first := d.start + d.kind.opening.length
  ⟨first, first + d.body.length⟩

/-- The range with both markers. -/
def span (d : Directive) : Text.Span := ⟨d.start, d.bodySpan.stop + d.kind.closing.length⟩

/-- The directive as it is written. -/
def marker (d : Directive) : List Char := d.kind.opening ++ d.body ++ d.kind.closing

/-- The names that the body refers to. -/
def names (d : Directive) : List String := referencedNames d.body

/-- Whether the body refers to no parameter. -/
def isMalformed (d : Directive) : Bool := d.names.isEmpty

/-- One directive lies in the body of another. -/
def Contains (d e : Directive) : Prop := e.span.Within d.bodySpan

instance (d e : Directive) : Decidable (d.Contains e) := inferInstanceAs (Decidable (_ ∧ _))

/-- A range is as long as the text that it stands for. -/
theorem length_marker (d : Directive) : d.marker.length = d.span.stop - d.span.start := by
  simp only [marker, span, bodySpan, List.length_append]
  omega

/-- The text of a body for one call. What lacks a parameter becomes empty; a body without any
    reference is an error. -/
def Kind.render (k : Kind) (body : List Char) (dialect : Dialect) (p : Parameters) :
    Except Error (List Char) :=
  let names := referencedNames body
  if names.isEmpty then .error (.noReference (String.ofList body) dialect)
  else
    match k with
    | optional => .ok (if p.allPresent names then body else [])
    -- One value that is missing empties the whole body.
    | literal => .ok ((spliceLiterals? body p).getD [])
    | parameter => .ok body

end Directive

end QueryBook
