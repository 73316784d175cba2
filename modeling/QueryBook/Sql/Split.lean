import QueryBook.Sql.Code

namespace QueryBook.Sql

/-!
# The statements of a text

* `splitMarked` — a text cut at the semicolons in code.
* `statements` — the parts without the blanks around them; blank parts are no statements.
-/

/-- The parts of a text between the semicolons in code. -/
def splitMarked : List (Char × Bool) → List (List Char)
  | [] => [[]]
  | (c, isCode) :: rest =>
    if c = ';' ∧ isCode then [] :: splitMarked rest
    else
      match splitMarked rest with
      | [] => [[c]]
      | part :: parts => (c :: part) :: parts

/-- The statements of a text, in order. -/
def statements (text : List Char) : List (List Char) :=
  ((splitMarked (marked text)).map Text.trimChars).filter fun part => !part.isEmpty

/-- No statement is blank. -/
theorem ne_nil_of_mem_statements {text part : List Char} (h : part ∈ statements text) :
    part ≠ [] := by
  simpa using (List.mem_filter.1 h).2

end QueryBook.Sql
