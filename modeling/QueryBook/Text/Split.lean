namespace QueryBook.Text

/-!
# Cutting a text at a character

* `splitChar` — the parts between the occurrences of a character, empty ones included.
* `cutAtChar?` — the parts before and behind the first occurrence.

Main statements: the parts, joined by the character again, are the text (`splitChar_join`), and a
text is cut at each occurrence on its own (`splitChar_append_cons`).
-/

/-- The parts of a text between the occurrences of a character. -/
def splitChar (sep : Char) : List Char → List (List Char)
  | [] => [[]]
  | c :: cs =>
    if c = sep then [] :: splitChar sep cs
    else
      match splitChar sep cs with
      | [] => [[c]]
      | part :: parts => (c :: part) :: parts

/-- The parts before and behind the first occurrence of a character. -/
def cutAtChar? (sep : Char) (cs : List Char) : Option (List Char × List Char) :=
  match cs.dropWhile (· != sep) with
  | [] => none
  | _ :: rest => some (cs.takeWhile (· != sep), rest)

/-- To split a text gives one part at least. -/
theorem splitChar_ne_nil (sep : Char) (cs : List Char) : splitChar sep cs ≠ [] := by
  cases cs with
  | nil => simp [splitChar]
  | cons c cs =>
    simp only [splitChar]
    split
    · simp
    · split <;> simp

/-- Joined by the character again, the parts are the text. -/
theorem splitChar_join (sep : Char) (cs : List Char) :
    [sep].intercalate (splitChar sep cs) = cs := by
  induction cs with
  | nil => rfl
  | cons c cs ih =>
    simp only [splitChar]
    cases hp : splitChar sep cs with
    | nil => exact absurd hp (splitChar_ne_nil sep cs)
    | cons part parts =>
      rw [hp] at ih
      by_cases h : c = sep
      · subst h; cases parts <;> simp_all [List.intercalate]
      · cases parts <;> simp_all [List.intercalate]

/-- A text without the character is one part. -/
theorem splitChar_of_not_mem {sep : Char} {cs : List Char} (h : sep ∉ cs) :
    splitChar sep cs = [cs] := by
  induction cs with
  | nil => rfl
  | cons c cs ih =>
    have hc : c ≠ sep := fun he => h (he ▸ List.mem_cons_self)
    rw [splitChar, if_neg hc, ih fun hm => h (List.mem_cons_of_mem c hm)]

/-- What stands before an occurrence is cut without regard to what stands behind it. -/
theorem splitChar_append_cons (sep : Char) (cs ds : List Char) :
    splitChar sep (cs ++ sep :: ds) = splitChar sep cs ++ splitChar sep ds := by
  induction cs with
  | nil => simp [splitChar]
  | cons c cs ih =>
    rw [List.cons_append, splitChar, splitChar, ih]
    split
    · rfl
    · cases hp : splitChar sep cs with
      | nil => exact absurd hp (splitChar_ne_nil sep cs)
      | cons part parts => rfl

end QueryBook.Text
