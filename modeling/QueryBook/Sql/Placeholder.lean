import QueryBook.Dialect
import QueryBook.Sql.Code
import QueryBook.Text.Search

namespace QueryBook

namespace Sql

/-!
# Placeholders

A driver knows no names: references in code give way to the marks of its style.

* `Token`, `tokens` — a text as single characters and references in code.
* `PlaceholderStyle.number` — the position of a name among the bound values: its first one, or a new
  one each time where marks bear no number.
* `rewrite` — the text with marks, and the name for each position.
-/

/-- A character that stays, or a reference that gives way. -/
inductive Token where
  | verbatim (c : Char)
  | reference (name : List Char)
deriving DecidableEq, Repr

/-- The tokens of the rest of a text, behind the character `before`. -/
def tokensFrom (before : Option Char) : List (Char × Bool) → List Token
  | [] => []
  | (c, isCode) :: rest =>
    if isCode && c == '@' && mayPrecede before && (rest.head?.map Prod.fst).any isNameStart then
      -- Only the `@` has to be code: no character of a name opens another region.
      let name := (rest.takeWhile fun m => isNameChar m.1).map Prod.fst
      have := Text.length_dropWhile_le (fun m => isNameChar m.1) rest
      .reference name :: tokensFrom name.getLast? (rest.dropWhile fun m => isNameChar m.1)
    else .verbatim c :: tokensFrom (some c) rest
termination_by l => l.length

/-- The tokens of a text. -/
def tokens (text : List Char) : List Token := tokensFrom none (marked text)

end Sql

namespace PlaceholderStyle

/-- The position of a name among the bound values, counted from one, and the names with it. -/
def number (style : PlaceholderStyle) (names : List String) (name : String) :
    List String × Nat :=
  match style with
  | anonymous => (names ++ [name], names.length + 1)
  | _ =>
    match names.idxOf? name with
    | some i => (names, i + 1)
    | none => (names ++ [name], names.length + 1)

/-- The mark of a position. -/
def mark (style : PlaceholderStyle) (position : Nat) : List Char :=
  match style with
  | dollar => '$' :: Nat.toDigits 10 position
  | numbered => '?' :: Nat.toDigits 10 position
  | anonymous => ['?']
  | named => '@' :: 'P' :: Nat.toDigits 10 position

end PlaceholderStyle

namespace Sql

/-- A text whose references have given way to marks, and the name for each position. -/
structure Rewritten where
  sql : List Char
  names : List String
deriving DecidableEq, Repr

/-- Writes tokens behind those that gave the names so far. -/
def rewriteTokens (style : PlaceholderStyle) (names : List String) : List Token → Rewritten
  | [] => ⟨[], names⟩
  | .verbatim c :: ts =>
    let r := rewriteTokens style names ts
    ⟨c :: r.sql, r.names⟩
  | .reference name :: ts =>
    let (names, position) := style.number names (String.ofList name)
    let r := rewriteTokens style names ts
    ⟨style.mark position ++ r.sql, r.names⟩

/-- A text with the marks of a style in the place of its references in code. -/
def rewrite (style : PlaceholderStyle) (text : List Char) : Rewritten :=
  rewriteTokens style [] (tokens text)

@[simp] theorem rewrite_nil (style : PlaceholderStyle) : rewrite style [] = ⟨[], []⟩ := by
  simp [rewrite, tokens, marked, tokensFrom, rewriteTokens]

end Sql

end QueryBook
