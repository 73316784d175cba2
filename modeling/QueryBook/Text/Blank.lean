namespace QueryBook.Text

/-!
# Blank characters

A character is blank when Unicode gives it the property `White_Space`: tabs and line ends, the
space, the no-break space and the wide spaces. A zero-width space or a byte-order mark is not.

* `isBlankChar` — the property.
* `trimChars`, `trim` — a text without the blanks at its two ends.
* `isBlank` — a text of blanks only.
* `Trimmed` — a text without blanks at its ends; trimming finds the one such text between blanks
  (`trimmed_trimChars`, `exists_trimChars`, `trimChars_append`).
-/

/-- Whether a character has the property `White_Space`. -/
def isBlankChar (c : Char) : Bool :=
  let n := c.toNat
  (9 ≤ n && n ≤ 13) || n == 0x20 || n == 0x85 || n == 0xA0 || n == 0x1680 ||
    (0x2000 ≤ n && n ≤ 0x200A) || n == 0x2028 || n == 0x2029 || n == 0x202F || n == 0x205F ||
    n == 0x3000

/-- Every ASCII blank is one. -/
theorem isBlankChar_of_isWhitespace {c : Char} (h : c.isWhitespace = true) :
    isBlankChar c = true := by
  simp only [Char.isWhitespace, Bool.or_eq_true, decide_eq_true_eq] at h
  rcases h with ((rfl | rfl) | rfl) | rfl <;> decide

/-- The characters without the blanks at the two ends. -/
def trimChars (cs : List Char) : List Char :=
  ((cs.dropWhile isBlankChar).reverse.dropWhile isBlankChar).reverse

/-- The text without the blanks at its two ends. -/
def trim (s : String) : String := String.ofList (trimChars s.toList)

/-- Whether a text holds nothing but blanks. -/
def isBlank (s : String) : Bool := s.toList.all isBlankChar

@[simp] theorem trimChars_nil : trimChars [] = [] := rfl

/-- Dropping blanks leaves nothing exactly of a run of blanks. -/
theorem dropWhile_isBlankChar_eq_nil {cs : List Char} :
    cs.dropWhile isBlankChar = [] ↔ cs.all isBlankChar = true := by
  induction cs with
  | nil => simp
  | cons c cs ih => cases h : isBlankChar c <;> simp [h, ih]

/-- Trimming leaves nothing exactly of a run of blanks. -/
theorem trimChars_eq_nil {cs : List Char} : trimChars cs = [] ↔ cs.all isBlankChar = true := by
  rw [trimChars, List.reverse_eq_nil_iff, dropWhile_isBlankChar_eq_nil, List.all_reverse]
  induction cs with
  | nil => simp
  | cons c cs ih => cases h : isBlankChar c <;> simp [h, ih]

/-- A text without blanks at its two ends. -/
def Trimmed (cs : List Char) : Prop :=
  (∀ c ∈ cs.head?, isBlankChar c = false) ∧ ∀ c ∈ cs.getLast?, isBlankChar c = false

/-- No blank is first in what is left when blanks are dropped. -/
theorem isBlankChar_of_mem_head?_dropWhile {cs : List Char} :
    ∀ c ∈ (cs.dropWhile isBlankChar).head?, isBlankChar c = false := by
  intro c hc
  have hhead := List.head?_dropWhile_not isBlankChar cs
  rw [hc] at hhead
  simpa using hhead

/-- What has been trimmed has no blanks at its ends. -/
theorem trimmed_trimChars (cs : List Char) : Trimmed (trimChars cs) := by
  refine ⟨?_, ?_⟩
  · intro c hc
    -- What is dropped at the end does not reach the beginning, unless nothing is left.
    rw [trimChars, List.head?_reverse] at hc
    obtain ⟨dropped, hdropped⟩ := List.dropWhile_suffix isBlankChar
      (l := (cs.dropWhile isBlankChar).reverse)
    have hfirst : c ∈ (cs.dropWhile isBlankChar).head? := by
      rw [← List.getLast?_reverse, ← hdropped, List.getLast?_append, hc]
      rfl
    exact isBlankChar_of_mem_head?_dropWhile c hfirst
  · rw [trimChars, List.getLast?_reverse]
    exact isBlankChar_of_mem_head?_dropWhile

/-- What is trimmed is blank. -/
theorem exists_trimChars (cs : List Char) :
    ∃ before after, cs = before ++ trimChars cs ++ after ∧
      (∀ c ∈ before, isBlankChar c = true) ∧ ∀ c ∈ after, isBlankChar c = true := by
  let rest := cs.dropWhile isBlankChar
  refine ⟨cs.takeWhile isBlankChar, (rest.reverse.takeWhile isBlankChar).reverse, ?_, ?_, ?_⟩
  · have hrest : trimChars cs ++ (rest.reverse.takeWhile isBlankChar).reverse = rest := by
      rw [trimChars, ← List.reverse_append, List.takeWhile_append_dropWhile, List.reverse_reverse]
    rw [List.append_assoc, hrest, List.takeWhile_append_dropWhile]
  · exact List.all_eq_true.1 List.all_takeWhile
  · intro c hc
    exact List.all_eq_true.1 List.all_takeWhile c (List.mem_reverse.1 hc)

/-- Between blanks a text without blanks at its ends is found. -/
theorem trimChars_append {before cs after : List Char} (hcs : Trimmed cs)
    (hbefore : ∀ c ∈ before, isBlankChar c = true) (hafter : ∀ c ∈ after, isBlankChar c = true) :
    trimChars (before ++ cs ++ after) = cs := by
  have hdrop : ∀ {blanks ds : List Char}, (∀ c ∈ blanks, isBlankChar c = true) → ds ≠ [] →
      (∀ c ∈ ds.head?, isBlankChar c = false) → (blanks ++ ds).dropWhile isBlankChar = ds := by
    intro blanks ds hblanks hne hds
    rw [List.dropWhile_append_of_pos hblanks]
    cases ds with
    | nil => exact absurd rfl hne
    | cons d ds => rw [List.dropWhile_cons_of_neg (by simp [hds d rfl])]
  by_cases hnil : cs = []
  · subst hnil
    rw [trimChars_eq_nil, List.all_eq_true]
    intro c hc
    rw [List.append_nil, List.mem_append] at hc
    exact hc.elim (hbefore c) (hafter c)
  · have hhead : (cs ++ after).head? = cs.head? := by
      cases cs with
      | nil => exact absurd rfl hnil
      | cons c cs => rfl
    rw [trimChars, List.append_assoc, hdrop hbefore (by simp [hnil]) (by rw [hhead]; exact hcs.1),
      List.reverse_append, hdrop (by simpa using hafter) (by simpa using hnil)
        (by rw [List.head?_reverse]; exact hcs.2), List.reverse_reverse]

/-- A text is blank exactly when trimming leaves nothing of it. -/
theorem isBlank_iff {s : String} : isBlank s = true ↔ trimChars s.toList = [] :=
  trimChars_eq_nil.symm

end QueryBook.Text
