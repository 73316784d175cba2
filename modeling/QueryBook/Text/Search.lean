namespace QueryBook.Text

/-!
# Searching a text for a text

* `stripStart?` — the rest after a given beginning.
* `breakOn?` — the text before and after the first occurrence of another one.
* `containsText` — whether there is one at all.

Main statements: the parts that `breakOn?` gives and the pattern make up the text again
(`breakOn?_append`), the text is broken at the first occurrence (`breakOn?_first`), if there is one
(`breakOn?_eq_none`), the rest is never longer than the text (`breakOn?_length_le`), and a text
without the pattern comes back from in front of it (`breakOn?_of_not_infix`).
-/

/-- What follows `start` in a text that begins with it. -/
def stripStart? : List Char → List Char → Option (List Char)
  | [], cs => some cs
  | _ :: _, [] => none
  | p :: ps, c :: cs => if p = c then stripStart? ps cs else none

/-- The text before the first occurrence of `pattern` and the text after it. -/
def breakOn? (pattern : List Char) : List Char → Option (List Char × List Char)
  | [] => (stripStart? pattern []).map fun rest => ([], rest)
  | c :: cs =>
    match stripStart? pattern (c :: cs) with
    | some rest => some ([], rest)
    | none => (breakOn? pattern cs).map fun (before, rest) => (c :: before, rest)

/-- Whether `part` occurs in a text. -/
def containsText (part text : String) : Bool := (breakOn? part.toList text.toList).isSome

/-- What is left behind a run of characters is no longer than the text. -/
theorem length_dropWhile_le {α : Type} (p : α → Bool) (l : List α) :
    (l.dropWhile p).length ≤ l.length := (List.dropWhile_sublist p).length_le

/-- What is left behind a beginning, if the text has it. -/
theorem stripStart?_eq_some {ps cs rest : List Char} :
    stripStart? ps cs = some rest ↔ cs = ps ++ rest := by
  induction ps generalizing cs with
  | nil => simp [stripStart?]
  | cons p ps ih =>
    cases cs with
    | nil => simp [stripStart?]
    | cons c cs =>
      by_cases h : p = c
      · subst h; simp [stripStart?, ih]
      · simp [stripStart?, h, Ne.symm h]

/-- A text without the beginning has nothing left behind it. -/
theorem stripStart?_eq_none {ps cs : List Char} : stripStart? ps cs = none ↔ ¬ ps <+: cs := by
  rw [Option.eq_none_iff_forall_ne_some]
  constructor
  · rintro h ⟨rest, hrest⟩
    exact h rest (stripStart?_eq_some.2 hrest.symm)
  · intro h rest hrest
    exact h ⟨rest, (stripStart?_eq_some.1 hrest).symm⟩

/-- Nothing is lost where a text is broken. -/
theorem breakOn?_append {pattern cs before rest : List Char}
    (h : breakOn? pattern cs = some (before, rest)) : cs = before ++ pattern ++ rest := by
  induction cs generalizing before with
  | nil =>
    simp only [breakOn?, Option.map_eq_some_iff, Prod.mk.injEq] at h
    obtain ⟨r, hr, rfl, rfl⟩ := h
    simpa using stripStart?_eq_some.1 hr
  | cons c cs ih =>
    simp only [breakOn?] at h
    split at h
    · next hr =>
      simp only [Option.some.injEq, Prod.mk.injEq] at h
      obtain ⟨rfl, rfl⟩ := h
      simpa using stripStart?_eq_some.1 hr
    · simp only [Option.map_eq_some_iff, Prod.mk.injEq] at h
      obtain ⟨⟨b, r⟩, hb, rfl, rfl⟩ := h
      simp [ih hb]

/-- The rest is shorter than the text by the pattern at least. -/
theorem breakOn?_length_le {pattern cs before rest : List Char}
    (h : breakOn? pattern cs = some (before, rest)) :
    rest.length + pattern.length ≤ cs.length := by
  rw [breakOn?_append h]
  simp only [List.length_append]
  omega

/-- The pattern does not occur further in front. -/
theorem breakOn?_first {pattern cs before rest : List Char}
    (h : breakOn? pattern cs = some (before, rest)) {place : Nat} (hplace : place < before.length) :
    ¬ pattern <+: cs.drop place := by
  induction cs generalizing before place with
  | nil =>
    simp only [breakOn?, Option.map_eq_some_iff, Prod.mk.injEq] at h
    obtain ⟨r, -, rfl, -⟩ := h
    exact absurd hplace (Nat.not_lt_zero place)
  | cons c cs ih =>
    simp only [breakOn?] at h
    split at h
    · simp only [Option.some.injEq, Prod.mk.injEq] at h
      obtain ⟨rfl, -⟩ := h
      exact absurd hplace (Nat.not_lt_zero place)
    · next hnone =>
      simp only [Option.map_eq_some_iff, Prod.mk.injEq] at h
      obtain ⟨⟨b, r⟩, hb, rfl, rfl⟩ := h
      cases place with
      | zero => exact stripStart?_eq_none.1 hnone
      | succ place => exact ih hb (Nat.lt_of_succ_lt_succ hplace)

/-- The search fails only if the pattern occurs nowhere. -/
theorem breakOn?_eq_none {pattern cs : List Char} :
    breakOn? pattern cs = none ↔ ¬ pattern <:+: cs := by
  induction cs with
  | nil => cases pattern <;> simp [breakOn?, stripStart?]
  | cons c cs ih =>
    rw [breakOn?, List.infix_cons_iff, not_or, ← stripStart?_eq_none]
    split
    · next rest hrest => simp [hrest]
    · next hnone => simp [hnone, ih]

/-- A text contains another one if this is a part of it. -/
theorem containsText_iff {part text : String} :
    containsText part text = true ↔ part.toList <:+: text.toList := by
  rw [containsText, Option.isSome_iff_ne_none, ne_eq, breakOn?_eq_none, Classical.not_not]

/-- A pattern whose last character stands nowhere else in it is found where it first occurs. -/
theorem breakOn?_of_not_infix (start : List Char) (last : Char) (hlast : last ∉ start)
    {cs : List Char} (hcs : ¬ start ++ [last] <:+: cs) (rest : List Char) :
    breakOn? (start ++ [last]) (cs ++ (start ++ last :: rest)) = some (cs, rest) := by
  induction cs with
  | nil =>
    have hstrip : stripStart? (start ++ [last]) (start ++ last :: rest) = some rest :=
      stripStart?_eq_some.2 (by simp)
    rw [List.nil_append]
    cases hds : start ++ last :: rest with
    | nil => simp at hds
    | cons d ds => rw [breakOn?, ← hds, hstrip]
  | cons c cs ih =>
    have hrest := ih fun hwithin => hcs (hwithin.trans (List.suffix_cons c cs).isInfix)
    have hnone : stripStart? (start ++ [last]) (c :: (cs ++ (start ++ last :: rest))) = none := by
      rw [Option.eq_none_iff_forall_ne_some]
      intro behind hsome
      have heq := stripStart?_eq_some.1 hsome
      rw [List.append_assoc, List.singleton_append, ← List.cons_append] at heq
      rcases List.append_eq_append_iff.1 heq with ⟨more, hstart, hmore⟩ | ⟨more, hmore, hbehind⟩
      · -- The pattern would end inside its own start.
        have hlt : more.length < start.length := by
          rw [hstart, List.length_append, List.length_cons]
          omega
        have hget : (start ++ last :: rest)[more.length]? = some last := by simp [hmore]
        rw [List.getElem?_append_left hlt] at hget
        exact hlast (List.mem_of_getElem? hget)
      · cases more with
        | nil =>
          rw [List.append_nil] at hmore
          rw [← hmore, List.nil_append, List.cons_append] at hbehind
          exact hlast (hmore ▸ (List.cons.inj hbehind).1 ▸ List.mem_cons_self)
        | cons d more =>
          rw [List.cons_append] at hbehind
          refine hcs ⟨[], more, ?_⟩
          rw [hmore, (List.cons.inj hbehind).1]
          simp
    rw [List.cons_append, breakOn?, hnone, hrest]
    rfl

end QueryBook.Text
