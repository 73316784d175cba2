import QueryBook.Proofs.Sql.Occurrences
import QueryBook.Proofs.Sql.Regions
import QueryBook.Sql.Split
import QueryBook.Text.Blank

namespace QueryBook.Sql

/-!
# The parts of a text

A text is cut at the semicolons in code. Behind each of them it is read as from the beginning, and
so are the references in it; blanks around a part change neither.

* `marked_append_semicolon`, `cut_induction` — reading behind a semicolon in code; what holds of a
  text without one, and of a text before and behind one, holds of every text.
* `tokensFrom_append`, `tokens_append_semicolon` — the references before and behind a semicolon.
* `marked_between_blanks`, `tokens_between_blanks` — a text between blanks.
-/

open Text (isBlankChar)

/-! ### Cutting -/

/-- Cutting gives one part at least. -/
theorem splitMarked_ne_nil (l : List (Char × Bool)) : splitMarked l ≠ [] := by
  cases l with
  | nil => simp [splitMarked]
  | cons m l =>
    rw [splitMarked]
    split
    · simp
    · split <;> simp

/-- Characters without a semicolon in code are one part. -/
theorem splitMarked_of_not_mem {l : List (Char × Bool)} (h : (';', true) ∉ l) :
    splitMarked l = [l.map Prod.fst] := by
  induction l with
  | nil => rfl
  | cons m l ih =>
    obtain ⟨c, isCode⟩ := m
    have hm : ¬ (c = ';' ∧ isCode = true) := by
      rintro ⟨rfl, rfl⟩
      exact h List.mem_cons_self
    rw [splitMarked, if_neg hm, ih fun hl => h (List.mem_cons_of_mem _ hl)]
    rfl

/-- What stands before a semicolon in code is cut without regard to what stands behind it. -/
theorem splitMarked_append (l l' : List (Char × Bool)) :
    splitMarked (l ++ (';', true) :: l') = splitMarked l ++ splitMarked l' := by
  induction l with
  | nil => simp [splitMarked]
  | cons m l ih =>
    rw [List.cons_append, splitMarked, splitMarked, ih]
    split
    · rfl
    · cases hl : splitMarked l with
      | nil => exact absurd hl (splitMarked_ne_nil l)
      | cons part parts => rfl

/-- No look ahead goes past a semicolon. -/
theorem isNeutral_semicolon : isNeutral ';' = true := by decide

section

variable {u v text : List Char}

/-- Behind a semicolon in code a text is read as from the beginning. -/
theorem marked_append_semicolon (hu : regionAfter .code 0 u = .code) (v : List Char) :
    marked (u ++ ';' :: v) = marked u ++ (';', true) :: marked v := by
  rw [marked_append (by exact isNeutral_semicolon), hu, markedFrom_read,
    Region.read_code_of_isPlain (by decide)]
  rfl

/-- A text with a semicolon in code has a first one. -/
theorem exists_cut (h : (';', true) ∈ marked text) :
    ∃ u v, text = u ++ ';' :: v ∧ (';', true) ∉ marked u ∧ regionAfter .code 0 u = .code := by
  obtain ⟨l, l', hl, hfirst⟩ := List.eq_append_cons_of_mem h
  have htext : text = l.map Prod.fst ++ ';' :: l'.map Prod.fst := by
    have hfst := congrArg (List.map Prod.fst) hl
    rwa [map_fst_marked, List.map_append, List.map_cons] at hfst
  have hparts : marked text = marked (l.map Prod.fst) ++
      markedFrom (regionAfter .code 0 (l.map Prod.fst)) 0 (';' :: l'.map Prod.fst) := by
    rw [htext, marked_append (by exact isNeutral_semicolon)]
  -- Both ways of reading give the semicolon the same place, so it is code in both of them.
  have hlen : l.length = (marked (l.map Prod.fst)).length := by simp [marked]
  obtain ⟨hleft, hright⟩ := List.append_inj (hl.symm.trans hparts) hlen
  rw [markedFrom_read] at hright
  have hcode := (congrArg Prod.snd (List.cons.inj hright).1).symm
  exact ⟨_, _, htext, hleft ▸ hfirst, (Region.read_of_isCode hcode).1⟩

/-- What holds of every text without a semicolon in code, and of a text that is cut at its first one
    if it holds of what stands behind, holds of every text. -/
@[elab_as_elim]
theorem cut_induction {motive : List Char → Prop}
    (whole : ∀ text, (';', true) ∉ marked text → motive text)
    (cut : ∀ u v, (';', true) ∉ marked u → regionAfter .code 0 u = .code → motive v →
      motive (u ++ ';' :: v)) (text : List Char) : motive text := by
  by_cases h : (';', true) ∈ marked text
  · obtain ⟨u, v, htext, hu, hcode⟩ := exists_cut h
    have hlt : v.length < text.length := by
      rw [htext, List.length_append, List.length_cons]
      omega
    exact htext ▸ cut u v hu hcode (cut_induction whole cut v)
  · exact whole text h
termination_by text.length

/-- No part has a semicolon in code. -/
theorem not_mem_marked_of_mem_splitMarked {part : List Char}
    (h : part ∈ splitMarked (marked text)) : (';', true) ∉ marked part := by
  induction text using cut_induction with
  | whole text htext =>
    rw [splitMarked_of_not_mem htext, map_fst_marked, List.mem_singleton] at h
    rwa [h]
  | cut u v hu hcode ih =>
    rw [marked_append_semicolon hcode, splitMarked_append, splitMarked_of_not_mem hu,
      map_fst_marked, List.singleton_append, List.mem_cons] at h
    rcases h with rfl | h
    · exact hu
    · exact ih h

end

/-! ### References in parts -/

section

variable {before : Option Char} {c : Char} {isCode : Bool} {rest : List (Char × Bool)}

/-- Where a reference begins it is read as a whole. -/
theorem tokensFrom_of_begins
    (h : (isCode && c == '@' && mayPrecede before &&
      (rest.head?.map Prod.fst).any isNameStart) = true) :
    tokensFrom before ((c, isCode) :: rest) =
      .reference ((rest.takeWhile fun m => isNameChar m.1).map Prod.fst) ::
        tokensFrom ((rest.takeWhile fun m => isNameChar m.1).map Prod.fst).getLast?
          (rest.dropWhile fun m => isNameChar m.1) := by
  rw [tokensFrom, if_pos h]

end

/-- Of what stands before, only whether a reference may begin counts. -/
theorem tokensFrom_congr {before before' : Option Char} (h : mayPrecede before = mayPrecede before')
    (l : List (Char × Bool)) : tokensFrom before l = tokensFrom before' l := by
  cases l with
  | nil => simp [tokensFrom]
  | cons m l =>
    obtain ⟨c, isCode⟩ := m
    rw [tokensFrom, tokensFrom, h]

/-- A run ends with the first of two lists, if the second one does not go on with it. -/
theorem takeWhile_append_of_head? {α : Type} {p : α → Bool} {l' : List α}
    (h : l'.head?.any p = false) (l : List α) :
    (l ++ l').takeWhile p = l.takeWhile p ∧ (l ++ l').dropWhile p = l.dropWhile p ++ l' := by
  induction l with
  | nil => cases l' <;> simp_all
  | cons a l ih => cases ha : p a <;> simp [ha, ih]

/-- In front of a character that may precede a reference the tokens are those of the parts. -/
theorem tokensFrom_append (before : Option Char) (l : List (Char × Bool)) {l' : List (Char × Bool)}
    (hl' : l'.head?.all (fun m => mayPrecede (some m.1)) = true) :
    tokensFrom before (l ++ l') = tokensFrom before l ++ tokensFrom none l' := by
  -- What follows begins with no character of a name and with no `@`.
  have hname : (l'.head?.any fun m => isNameChar m.1) = false := by
    cases l' with
    | nil => rfl
    | cons m l' =>
      rw [List.head?_cons, Option.any_some, Bool.eq_false_iff]
      intro hm
      exact absurd (mayPrecede_eq_false_of_isNameChar hm) (by simpa using hl')
  have hstart : (l'.head?.map Prod.fst).any isNameStart = false := by
    cases l' with
    | nil => rfl
    | cons m l' =>
      rw [List.head?_cons, Option.map_some, Option.any_some, Bool.eq_false_iff]
      intro hm
      exact absurd (isNameChar_of_isNameStart hm) (by simpa using hname)
  fun_induction tokensFrom before l with
  | case1 before =>
    cases l' with
    | nil => simp [tokensFrom]
    | cons m l' =>
      obtain ⟨c, isCode⟩ := m
      have hat : (c == '@') = false := by
        rw [beq_eq_false_iff_ne]
        rintro rfl
        have hmay : mayPrecede (some '@') = true := hl'
        exact absurd hmay (by decide)
      simp [tokensFrom, hat]
  | case2 before c isCode rest hc name hshort ih =>
    -- A reference: its name does not go on in what follows.
    obtain ⟨htake, hdrop⟩ := takeWhile_append_of_head? hname rest
    have hhead : (rest ++ l').head? = rest.head? := by
      cases rest with
      | nil => simp at hc
      | cons m rest => rfl
    rw [List.cons_append, tokensFrom_of_begins (by rw [hhead]; exact hc), htake, hdrop, ih]
    rfl
  | case3 before c isCode rest hc ih =>
    have hhead : ((rest ++ l').head?.map Prod.fst).any isNameStart =
        (rest.head?.map Prod.fst).any isNameStart := by
      cases rest with
      | nil => exact hstart
      | cons m rest => rfl
    rw [List.cons_append, tokensFrom, hhead, if_neg hc, ih, List.cons_append]

/-! ### Blanks around a part -/

/-- The characters of names are between the digit zero and the letter z. -/
theorem toNat_of_isNameChar {c : Char} (h : isNameChar c = true) :
    48 ≤ c.toNat ∧ c.toNat ≤ 122 := by
  have hval : c.val.toNat = c.toNat := rfl
  -- The ranges of the capital letters, the small letters and the digits.
  change (((decide (65 ≤ c.val ∧ c.val ≤ 90) || (decide (97 ≤ c.val) && decide (c.val ≤ 122))) ||
    (decide (48 ≤ c.val) && decide (c.val ≤ 57))) || c == '_') = true at h
  simp only [Bool.or_eq_true, Bool.and_eq_true, decide_eq_true_eq, beq_iff_eq,
    UInt32.le_iff_toNat_le, hval] at h
  rcases h with ((⟨hlow, hhigh⟩ | ⟨hlow, hhigh⟩) | ⟨hlow, hhigh⟩) | rfl
  · exact ⟨Nat.le_trans (by decide) hlow, Nat.le_trans hhigh (by decide)⟩
  · exact ⟨Nat.le_trans (by decide) hlow, Nat.le_trans hhigh (by decide)⟩
  · exact ⟨Nat.le_trans (by decide) hlow, Nat.le_trans hhigh (by decide)⟩
  · decide

/-- No look ahead goes past a blank. -/
theorem isNeutral_of_isBlankChar {c : Char} (h : isBlankChar c = true) : isNeutral c = true := by
  have hname : isNameChar c = false := by
    rw [Bool.eq_false_iff]
    intro hc
    obtain ⟨hlow, hhigh⟩ := toNat_of_isNameChar hc
    simp only [isBlankChar, Bool.or_eq_true, Bool.and_eq_true, decide_eq_true_eq, beq_iff_eq] at h
    omega
  have hnot : ['\'', '"', '-', '/', '*', '$'].contains c = false := by
    rw [List.contains_eq_mem, decide_eq_false_iff_not]
    intro hc
    simp only [List.mem_cons, List.not_mem_nil, or_false] at hc
    rcases hc with rfl | rfl | rfl | rfl | rfl | rfl <;> exact absurd h (by decide)
  rw [isNeutral, hname, hnot]
  rfl

theorem mayPrecede_none : mayPrecede none = true := rfl

/-- A blank is no `@` and may stand in front of one. -/
theorem mayPrecede_of_isBlankChar {c : Char} (h : isBlankChar c = true) :
    c ≠ '@' ∧ mayPrecede (some c) = true := by
  have hat : c ≠ '@' := by
    rintro rfl
    exact absurd h (by decide)
  have hname := isNameChar_eq_false_of_isNeutral (isNeutral_of_isBlankChar h)
  exact ⟨hat, by simp [mayPrecede, hat, hname]⟩

/-- Blanks stay, and a reference may begin behind them. -/
theorem tokensFrom_blanks_append {before : Option Char} {l : List (Char × Bool)}
    (hl : ∀ m ∈ l, isBlankChar m.1 = true) (hbefore : mayPrecede before = true)
    (l' : List (Char × Bool)) :
    tokensFrom before (l ++ l') = (l.map Prod.fst).map .verbatim ++ tokensFrom none l' := by
  induction l generalizing before with
  | nil => exact tokensFrom_congr hbefore l'
  | cons m l ih =>
    obtain ⟨c, isCode⟩ := m
    obtain ⟨hat, hmay⟩ := mayPrecede_of_isBlankChar (hl _ List.mem_cons_self)
    rw [List.cons_append, tokensFrom, if_neg (by simp [hat]),
      ih (fun m hm => hl m (List.mem_cons_of_mem _ hm)) hmay]
    rfl

section

variable {u v blanks blanks' core : List Char}

/-- Blanks begin with a neutral character. -/
theorem all_isNeutral_of_blanks (h : ∀ c ∈ blanks, isBlankChar c = true) :
    blanks.head?.all isNeutral = true := by
  cases blanks with
  | nil => rfl
  | cons c blanks => exact isNeutral_of_isBlankChar (h c List.mem_cons_self)

/-- Between blanks a text is read as on its own. -/
theorem marked_between_blanks (h : ∀ c ∈ blanks, isBlankChar c = true)
    (h' : ∀ c ∈ blanks', isBlankChar c = true) (core : List Char) :
    marked (blanks ++ core ++ blanks') = blanks.map (·, true) ++
      (marked core ++ markedFrom (regionAfter .code 0 core) 0 blanks') := by
  have hplain : ∀ c ∈ blanks, Region.isPlain c = true := fun c hc =>
    Region.isPlain_of_isNeutral (isNeutral_of_isBlankChar (h c hc))
  rw [List.append_assoc, marked_eq, markedFrom_code_append hplain, ← marked_eq,
    marked_append (all_isNeutral_of_blanks h')]

/-- Blanks around a text hold no reference, and change none. -/
theorem tokens_between_blanks (h : ∀ c ∈ blanks, isBlankChar c = true)
    (h' : ∀ c ∈ blanks', isBlankChar c = true) (core : List Char) :
    tokens (blanks ++ core ++ blanks') =
      blanks.map .verbatim ++ tokens core ++ blanks'.map .verbatim := by
  let after := markedFrom (regionAfter .code 0 core) 0 blanks'
  have hafter : after.map Prod.fst = blanks' := map_fst_markedFrom
  have hblank : ∀ m ∈ after, isBlankChar m.1 = true := by
    intro m hm
    have hmem : m.1 ∈ after.map Prod.fst := List.mem_map_of_mem hm
    rw [hafter] at hmem
    exact h' m.1 hmem
  -- A blank behind the core ends a name that is open there.
  have hhead : after.head?.all (fun m => mayPrecede (some m.1)) = true := by
    rw [Option.all_eq_true]
    intro m hm
    exact (mayPrecede_of_isBlankChar (hblank m (List.mem_of_mem_head? hm))).2
  have hmap : (blanks.map (·, true)).map Prod.fst = blanks := by simp [Function.comp_def]
  have hend : tokensFrom none after = blanks'.map .verbatim := by
    have hall := tokensFrom_blanks_append hblank mayPrecede_none []
    rwa [List.append_nil, hafter, tokensFrom, List.append_nil] at hall
  rw [tokens, marked_between_blanks h h',
    tokensFrom_blanks_append (by simpa using h) mayPrecede_none, hmap,
    tokensFrom_append none (marked core) hhead, hend, ← List.append_assoc]
  rfl

/-- The references of a text that is cut are those of its parts. -/
theorem tokens_append_semicolon (hu : regionAfter .code 0 u = .code) (v : List Char) :
    tokens (u ++ ';' :: v) = tokens u ++ .verbatim ';' :: tokens v := by
  have hhead : ((';', true) :: marked v).head?.all (fun m => mayPrecede (some m.1)) = true := by
    show mayPrecede (some ';') = true
    decide
  have hnone : mayPrecede (some ';') = mayPrecede none := by decide
  rw [tokens, marked_append_semicolon hu, tokensFrom_append none (marked u) hhead,
    tokensFrom, if_neg (by simp), tokensFrom_congr hnone]
  rfl

end

end QueryBook.Sql
