import QueryBook.Text.CaseTable

namespace QueryBook.Text

/-!
# Lower case

Two ways to read a name without case.

* `lowercase` — the full mapping of Unicode: every letter goes to its lower-case partner, `İ` to an
  `i` with a dot above, and a `Σ` at the end of a word to the final form of the letter.
* `asciiLowercase` — letters from `A` to `Z` alone.
-/

/-- Whether a letter has some case. -/
def isCased (c : Char) : Bool :=
  casedRanges.any fun (lo, hi) => lo ≤ c.toNat && c.toNat ≤ hi

/-- Whether a character is skipped when the end of a word is looked for. -/
def isCaseIgnorable (c : Char) : Bool :=
  caseIgnorableRanges.any fun (lo, hi) => lo ≤ c.toNat && c.toNat ≤ hi

/-- The lower-case partner of one character, or the character itself. -/
def lowerChar (c : Char) : Char :=
  if c.toNat < 0x80 then c.toLower
  else
    match lowerRanges.findSome? (LowerRange.partner? · c.toNat) with
    | some n => Char.ofNat n
    | none => c

/-- Whether the nearest character that counts is a letter of some case. -/
def meetsCased (cs : List Char) : Bool :=
  (cs.dropWhile isCaseIgnorable).head?.any isCased

/-- Lower case of the characters after `before`, which is given back to front. A `Σ` takes its
    final form after a letter, unless another letter follows. -/
def lowerChars (before : List Char) : List Char → List Char
  | [] => []
  | c :: cs =>
    let lowered :=
      -- Marks between the letters do not end a word.
      if c = 'Σ' then
        if meetsCased before && !meetsCased cs then ['ς'] else ['σ']
      else if c = 'İ' then ['i', '\u0307']
      else [lowerChar c]
    lowered ++ lowerChars (c :: before) cs

/-- A text in lower case. -/
def lowercase (s : String) : String := String.ofList (lowerChars [] s.toList)

/-- A text with its ASCII letters in lower case. -/
def asciiLowercase (s : String) : String := s.map Char.toLower

/-- Whether two texts differ at most in the case of ASCII letters. -/
def sameIgnoringAsciiCase (s t : String) : Bool := asciiLowercase s == asciiLowercase t

end QueryBook.Text
