import QueryBook.Reference

namespace QueryBook.Sql

/-!
# Code and what is not

A `;` or a reference counts only in code: not in quotes, in comments, or in the bodies that
PostgreSQL puts between two equal tags.

* `Region`, `Region.read` — the region of a text that a character belongs to, and the one behind it.
* `codeMask` — for every character whether it is code. Neither are the delimiters of a region.
-/

/-- A region of a text. -/
inductive Region where
  | code
  /-- Between two quotes of one sort; two in a row stand for one of them. -/
  | quoted (quote : Char)
  /-- From two dashes to the end of the line. -/
  | lineComment
  /-- Inside so many comments, one in another. -/
  | blockComment (depth : Nat)
  /-- Between two tags; the characters of a tag are those of a name. -/
  | tagged (tag : List Char)
deriving DecidableEq, Repr

/-- What one character does: whether it is code, the region behind it, and how many further
    characters belong to it. -/
structure Reading where
  isCode : Bool
  next : Region
  skip : Nat
deriving DecidableEq, Repr

/-- The tag that begins behind a dollar sign: characters of a name up to another dollar sign. -/
def openingTag? (cs : List Char) : Option (List Char) :=
  match cs.dropWhile isNameChar with
  | '$' :: _ => some (cs.takeWhile isNameChar)
  | _ => none

namespace Region

/-- Reads a character in code. -/
def readCode (c : Char) (rest : List Char) : Reading :=
  if c = '\'' ∨ c = '"' then ⟨false, quoted c, 0⟩
  else if c = '-' ∧ rest.head? = some '-' then ⟨false, lineComment, 1⟩
  else if c = '/' ∧ rest.head? = some '*' then ⟨false, blockComment 1, 1⟩
  else if c = '$' then
    match openingTag? rest with
    | some tag => ⟨false, tagged tag, tag.length + 1⟩
    -- A dollar sign that opens no tag is code like any other character.
    | none => ⟨true, code, 0⟩
  else ⟨true, code, 0⟩

/-- Reads a character in a region, given those behind it. -/
def read (r : Region) (c : Char) (rest : List Char) : Reading :=
  match r with
  | code => readCode c rest
  | quoted quote =>
    if c = quote then
      -- Two quotes in a row stand for one of them and close nothing.
      if rest.head? = some quote then ⟨false, quoted quote, 1⟩ else ⟨false, code, 0⟩
    else ⟨false, quoted quote, 0⟩
  | lineComment => ⟨false, if c = '\n' then code else lineComment, 0⟩
  | blockComment depth =>
    if c = '/' ∧ rest.head? = some '*' then ⟨false, blockComment (depth + 1), 1⟩
    else if c = '*' ∧ rest.head? = some '/' then
      ⟨false, if depth = 1 then code else blockComment (depth - 1), 1⟩
    else ⟨false, blockComment depth, 0⟩
  | tagged tag =>
    if c = '$' ∧ (tag ++ ['$']).isPrefixOf rest then ⟨false, code, tag.length + 1⟩
    else ⟨false, tagged tag, 0⟩

end Region

/-- For every character of the rest of a text whether it is code. The first `skip` characters belong
    to what was read before. -/
def maskFrom (r : Region) (skip : Nat) : List Char → List Bool
  | [] => []
  | c :: cs =>
    match skip with
    | skip + 1 => false :: maskFrom r skip cs
    | 0 =>
      let reading := r.read c cs
      reading.isCode :: maskFrom reading.next reading.skip cs

/-- For every character of a text whether it is code. -/
def codeMask (text : List Char) : List Bool := maskFrom .code 0 text

@[simp] theorem length_maskFrom (r : Region) (skip : Nat) (cs : List Char) :
    (maskFrom r skip cs).length = cs.length := by
  induction cs generalizing r skip with
  | nil => rfl
  | cons c cs ih => cases skip <;> simp [maskFrom, ih]

/-- Every character is marked. -/
@[simp] theorem length_codeMask (text : List Char) : (codeMask text).length = text.length :=
  length_maskFrom .code 0 text

/-- The characters of a text, each with its mark. -/
def marked (text : List Char) : List (Char × Bool) := text.zip (codeMask text)

theorem map_fst_marked (text : List Char) : (marked text).map Prod.fst = text := by
  simp [marked, List.map_fst_zip]

end QueryBook.Sql
