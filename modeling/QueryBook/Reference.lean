import QueryBook.Parameters
import QueryBook.Text.Replace

namespace QueryBook

/-!
# References to parameters

A reference is an `@` and a name: an ASCII letter or underscore, then letters, digits and
underscores. The `@` does not count behind another `@` or behind a character of a name, so that
neither `@@ROWCOUNT` nor `a@b` holds a reference.

* `references`, `referencedNames` — the references of a text in order, and their names, each once.
* `spliceLiterals?` — the text with every reference replaced by the SQL text of its value.
-/

/-- A reference and the place of its `@`. -/
structure Reference where
  name : String
  start : Nat
deriving DecidableEq, Repr

/-- The range from the `@` to the end of the name. -/
def Reference.span (r : Reference) : Text.Span := ⟨r.start, r.start + 1 + r.name.length⟩

/-- The characters that begin a name. -/
def isNameStart (c : Char) : Bool := c.isAlpha || c == '_'

/-- The characters of a name. -/
def isNameChar (c : Char) : Bool := c.isAlphanum || c == '_'

/-- Whether an `@` may begin a reference behind a character, or at the beginning of a text. -/
def mayPrecede (before : Option Char) : Bool := before.all fun c => c != '@' && !isNameChar c

/-- The references in the rest of a text, which begins at `place` behind the character `before`. -/
def referencesFrom (before : Option Char) (place : Nat) : List Char → List Reference
  | [] => []
  | c :: cs =>
    -- The characters of the name are walked over again; they begin no reference.
    if c == '@' && mayPrecede before && cs.head?.any isNameStart then
      ⟨String.ofList (cs.takeWhile isNameChar), place⟩ :: referencesFrom (some c) (place + 1) cs
    else referencesFrom (some c) (place + 1) cs

/-- The references of a text, in order. -/
def references (text : List Char) : List Reference := referencesFrom none 0 text

/-- The names that a text refers to, each once, in the order in which they come first. -/
def referencedNames (text : List Char) : List String :=
  ((references text).map Reference.name).eraseDups

/-- The SQL text of a name's value, unless it is absent, blank or has none. -/
def Parameters.literal? (p : Parameters) (name : String) : Option String :=
  match p.get? name with
  | some v => if v.isBlank then none else v.literal?
  | none => none

/-- The text with all references replaced at once by the SQL text of their values, if every value
    has one. -/
def spliceLiterals? (text : List Char) (p : Parameters) : Option (List Char) :=
  ((references text).mapM fun r => (p.literal? r.name).map fun s => (r.span, s.toList)).map
    (Text.replaceSpans text)

/-- A text that refers to nothing is left as it is. -/
theorem spliceLiterals?_of_references_eq_nil {text : List Char} (p : Parameters)
    (h : references text = []) : spliceLiterals? text p = some text := by
  simp [spliceLiterals?, h]

end QueryBook
