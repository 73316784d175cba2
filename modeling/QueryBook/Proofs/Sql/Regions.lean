import QueryBook.Sql.Code

namespace QueryBook.Sql

/-!
# Reading a text in parts

A character is read with a look at those behind it, but no look goes past a neutral character. So a
text may be read in two parts, if the second one begins with a neutral character or is empty.

* `isNeutral`, `Alongside` — neutral characters; two texts that no look ahead tells apart.
* `Region.read_congr` — a character is read alike in front of two such texts.
* `markedFrom`, `regionAfter` — the marks of the rest of a text, and the region behind a text.
* `markedFrom_append`, `marked_append` — the two parts of a text, the second one read from where the
  first one ends.
* `Region.read_of_isCode` — only code has code in it, and code goes on behind it.
-/

/-! ### Looking ahead -/

/-- Whether no look ahead goes past a character: it is not of a name, and no region begins or ends
    with it. -/
def isNeutral (c : Char) : Bool :=
  !isNameChar c && !(['\'', '"', '-', '/', '*', '$'].contains c)

/-- Two texts are alike up to a place where each of them ends or has a neutral character. -/
inductive Alongside : List Char → List Char → Prop
  | stop {cs ds : List Char} (hcs : cs.head?.all isNeutral = true)
      (hds : ds.head?.all isNeutral = true) : Alongside cs ds
  | cons (c : Char) {cs ds : List Char} (h : Alongside cs ds) : Alongside (c :: cs) (c :: ds)

/-- A neutral rest may be left out. -/
theorem alongside_append {v : List Char} (hv : v.head?.all isNeutral = true) (u : List Char) :
    Alongside (u ++ v) u := by
  induction u with
  | nil => exact .stop hv rfl
  | cons c u ih => exact .cons c ih

section

variable {cs ds : List Char}

/-- A character that is not neutral begins both texts or none of them. -/
theorem Alongside.head?_eq_some_iff (h : Alongside cs ds) {d : Char} (hd : isNeutral d = false) :
    cs.head? = some d ↔ ds.head? = some d := by
  cases h with
  | stop hcs hds =>
    have hne : ∀ {es : List Char}, es.head?.all isNeutral = true → es.head? ≠ some d := by
      intro es hes he
      rw [he, Option.all_some, hd] at hes
      exact Bool.false_ne_true hes
    exact iff_of_false (hne hcs) (hne hds)
  | cons c h => simp

/-- Characters that are not neutral begin both texts or none of them. -/
theorem Alongside.isPrefixOf_eq (h : Alongside cs ds) {ps : List Char}
    (hps : ∀ p ∈ ps, isNeutral p = false) : ps.isPrefixOf cs = ps.isPrefixOf ds := by
  induction ps generalizing cs ds with
  | nil => simp
  | cons p ps ih =>
    have hp : isNeutral p = false := hps p List.mem_cons_self
    cases h with
    | stop hcs hds =>
      -- Behind the stop both texts begin with a neutral character, or are over.
      have hfalse : ∀ {es : List Char}, es.head?.all isNeutral = true →
          (p :: ps).isPrefixOf es = false := by
        intro es hes
        cases es with
        | nil => rfl
        | cons e es =>
          have hne : p ≠ e := by
            rintro rfl
            exact Bool.false_ne_true (hp.symm.trans hes)
          simp [List.isPrefixOf, hne]
      rw [hfalse hcs, hfalse hds]
    | cons c h =>
      rw [List.isPrefixOf, List.isPrefixOf, ih h fun q hq => hps q (List.mem_cons_of_mem p hq)]

theorem isNameChar_eq_false_of_isNeutral {c : Char} (h : isNeutral c = true) :
    isNameChar c = false := by
  simp only [isNeutral, Bool.and_eq_true, Bool.not_eq_true'] at h
  exact h.1

theorem isNeutral_eq_false_of_isNameChar {c : Char} (h : isNameChar c = true) :
    isNeutral c = false := by
  simp [isNeutral, h]

/-- A character of a name belongs to the tag that it begins, if there is one. -/
theorem openingTag?_cons_of_isNameChar {c : Char} (h : isNameChar c = true) (cs : List Char) :
    openingTag? (c :: cs) = (openingTag? cs).map (c :: ·) := by
  rw [openingTag?, openingTag?, List.dropWhile_cons_of_pos h, List.takeWhile_cons_of_pos h]
  split <;> rfl

/-- At any other character a tag has ended, or there is none. -/
theorem openingTag?_cons_of_not {c : Char} (h : isNameChar c = false) (cs : List Char) :
    openingTag? (c :: cs) = if c = '$' then some [] else none := by
  rw [openingTag?, List.dropWhile_cons_of_neg (by simp [h]),
    List.takeWhile_cons_of_neg (by simp [h])]
  by_cases hdollar : c = '$' <;> simp [hdollar]

/-- The same tag begins in front of both texts, or none. -/
theorem Alongside.openingTag?_eq (h : Alongside cs ds) : openingTag? cs = openingTag? ds := by
  have hstop : ∀ {es : List Char}, es.head?.all isNeutral = true → openingTag? es = none := by
    intro es hes
    cases es with
    | nil => rfl
    | cons e es =>
      have hne : e ≠ '$' := by
        rintro rfl
        have hdollar : isNeutral '$' = false := by decide
        exact Bool.false_ne_true (hdollar.symm.trans hes)
      rw [openingTag?_cons_of_not (isNameChar_eq_false_of_isNeutral hes), if_neg hne]
  -- A tag that begins in one of the texts has ended before they cease to be alike.
  induction h with
  | stop hcs hds => rw [hstop hcs, hstop hds]
  | @cons c cs ds h ih =>
    by_cases hc : isNameChar c = true
    · rw [openingTag?_cons_of_isNameChar hc, openingTag?_cons_of_isNameChar hc, ih]
    · rw [Bool.not_eq_true] at hc
      rw [openingTag?_cons_of_not hc, openingTag?_cons_of_not hc]

end

/-! ### Reading a character -/

namespace Region

/-- A region that may come about: quotes are of the two sorts, and a tag is a name. -/
def Valid : Region → Prop
  | quoted quote => quote = '\'' ∨ quote = '"'
  | tagged tag => ∀ c ∈ tag, isNameChar c = true
  | _ => True

theorem valid_code : code.Valid := trivial

/-- The characters of a tag are those of a name. -/
theorem isNameChar_of_mem_openingTag? {cs tag : List Char} (h : openingTag? cs = some tag) :
    ∀ c ∈ tag, isNameChar c = true := by
  rw [openingTag?] at h
  split at h
  · cases h
    exact List.all_eq_true.1 List.all_takeWhile
  · simp at h

/-- A tag and the dollar sign behind it belong to the text that they begin. -/
theorem length_lt_of_openingTag? {cs tag : List Char} (h : openingTag? cs = some tag) :
    tag.length < cs.length := by
  rw [openingTag?] at h
  split at h
  · next rest hrest =>
    cases h
    have hlen := congrArg List.length (List.takeWhile_append_dropWhile (p := isNameChar) (l := cs))
    rw [hrest, List.length_append, List.length_cons] at hlen
    omega
  · simp at h

/-- What belongs to a character besides itself is there. -/
theorem skip_read_le (r : Region) (c : Char) (rest : List Char) :
    (r.read c rest).skip ≤ rest.length := by
  have hone : ∀ {d : Char}, rest.head? = some d → 1 ≤ rest.length := by
    intro d hd
    cases rest with
    | nil => simp at hd
    | cons e rest => simp
  cases r with
  | code =>
    rw [read, readCode]
    split
    · exact Nat.zero_le _
    · split
      · next h => exact hone h.2
      · split
        · next h => exact hone h.2
        · split
          · split
            · next tag htag => exact length_lt_of_openingTag? htag
            · exact Nat.zero_le _
          · exact Nat.zero_le _
  | quoted quote =>
    rw [read]
    split
    · split
      · next h => exact hone h
      · exact Nat.zero_le _
    · exact Nat.zero_le _
  | lineComment => exact Nat.zero_le _
  | blockComment depth =>
    rw [read]
    split
    · next h => exact hone h.2
    · split
      · next h => exact hone h.2
      · exact Nat.zero_le _
  | tagged tag =>
    rw [read]
    split
    · next h =>
      have hlen := (List.isPrefixOf_iff_prefix.1 h.2).length_le
      rwa [List.length_append] at hlen
    · exact Nat.zero_le _

/-- A region that may come about is followed by one that may. -/
theorem Valid.next_read {r : Region} (hr : r.Valid) (c : Char) (rest : List Char) :
    (r.read c rest).next.Valid := by
  cases r with
  | code =>
    rw [read, readCode]
    split
    · next h => exact h
    · split
      · trivial
      · split
        · trivial
        · split
          · split
            · next tag htag => exact isNameChar_of_mem_openingTag? htag
            · trivial
          · trivial
  | quoted quote =>
    rw [read]
    split
    · split
      · exact hr
      · trivial
    · exact hr
  | lineComment =>
    show Valid (if c = '\n' then code else lineComment)
    split <;> trivial
  | blockComment depth =>
    rw [read]
    split
    · trivial
    · split
      · show Valid (if depth = 1 then code else blockComment (depth - 1))
        split <;> trivial
      · trivial
  | tagged tag =>
    rw [read]
    split
    · trivial
    · exact hr

/-- A character is read alike in front of two texts that no look ahead tells apart. -/
theorem read_congr {r : Region} (hr : r.Valid) (c : Char) {cs ds : List Char}
    (h : Alongside cs ds) : r.read c cs = r.read c ds := by
  have hhead : ∀ {d : Char}, isNeutral d = false → (cs.head? = some d ↔ ds.head? = some d) :=
    fun hd => h.head?_eq_some_iff hd
  have hdash : cs.head? = some '-' ↔ ds.head? = some '-' := hhead (by decide)
  have hstar : cs.head? = some '*' ↔ ds.head? = some '*' := hhead (by decide)
  have hslash : cs.head? = some '/' ↔ ds.head? = some '/' := hhead (by decide)
  -- No region looks ahead for a neutral character.
  cases r with
  | code => simp only [read, readCode, hdash, hstar, h.openingTag?_eq]
  | quoted quote =>
    have hquote : cs.head? = some quote ↔ ds.head? = some quote := by
      rcases hr with rfl | rfl
      · exact hhead (by decide)
      · exact hhead (by decide)
    simp only [read, hquote]
  | lineComment => rfl
  | blockComment depth => simp only [read, hstar, hslash]
  | tagged tag =>
    have htag : ∀ p ∈ tag ++ ['$'], isNeutral p = false := by
      intro p hp
      rcases List.mem_append.1 hp with hp | hp
      · exact isNeutral_eq_false_of_isNameChar (hr p hp)
      · rw [List.mem_singleton.1 hp]
        decide
    simp only [read, h.isPrefixOf_eq htag]

/-- Only code has code in it, and code goes on behind it. -/
theorem read_of_isCode {r : Region} {c : Char} {rest : List Char}
    (h : (r.read c rest).isCode = true) : r = code ∧ r.read c rest = ⟨true, code, 0⟩ := by
  cases r with
  | code =>
    refine ⟨rfl, ?_⟩
    rw [read, readCode] at h ⊢
    split at h
    · exact absurd h Bool.false_ne_true
    · next hquote =>
      rw [if_neg hquote]
      split at h
      · exact absurd h Bool.false_ne_true
      · next hdash =>
        rw [if_neg hdash]
        split at h
        · exact absurd h Bool.false_ne_true
        · next hslash =>
          rw [if_neg hslash]
          split at h
          · next hdollar =>
            rw [if_pos hdollar]
            -- A dollar sign that opens a tag is not code.
            split at h
            · exact absurd h Bool.false_ne_true
            · rfl
          · next hdollar => rw [if_neg hdollar]
  | quoted quote =>
    rw [read] at h
    repeat' split at h
    all_goals exact absurd h Bool.false_ne_true
  | lineComment => exact absurd h Bool.false_ne_true
  | blockComment depth =>
    rw [read] at h
    repeat' split at h
    all_goals exact absurd h Bool.false_ne_true
  | tagged tag =>
    rw [read] at h
    split at h
    all_goals exact absurd h Bool.false_ne_true

/-- Whether a character that stands in code is code whatever follows it. -/
def isPlain (c : Char) : Bool := !(['\'', '"', '-', '/', '$'].contains c)

theorem isPlain_of_isNeutral {c : Char} (h : isNeutral c = true) : isPlain c = true := by
  simp only [isNeutral, isPlain, List.contains_cons, Bool.and_eq_true, Bool.not_eq_true',
    Bool.or_eq_false_iff] at h ⊢
  grind

theorem isPlain_of_isNameChar {c : Char} (h : isNameChar c = true) : isPlain c = true := by
  simp only [isPlain, List.contains_cons, List.contains_nil, Bool.not_eq_true',
    Bool.or_eq_false_iff, beq_eq_false_iff_ne, ne_eq]
  refine ⟨?_, ?_, ?_, ?_, ?_, trivial⟩ <;>
  · rintro rfl
    exact absurd h (by decide)

/-- In code a plain character is code and leads nowhere else. -/
theorem read_code_of_isPlain {c : Char} (h : isPlain c = true) (rest : List Char) :
    code.read c rest = ⟨true, code, 0⟩ := by
  simp only [isPlain, List.contains_cons, List.contains_nil, Bool.not_eq_true',
    Bool.or_eq_false_iff, beq_eq_false_iff_ne, ne_eq] at h
  obtain ⟨hsingle, hdouble, hdash, hslash, hdollar, -⟩ := h
  simp [read, readCode, hsingle, hdouble, hdash, hslash, hdollar]

end Region

/-! ### Reading a text -/

/-- The characters of the rest of a text, each with whether it is code. -/
def markedFrom (r : Region) (skip : Nat) (cs : List Char) : List (Char × Bool) :=
  cs.zip (maskFrom r skip cs)

/-- The region behind a text that is the rest of another one. -/
def regionAfter (r : Region) (skip : Nat) : List Char → Region
  | [] => r
  | c :: cs =>
    match skip with
    | skip + 1 => regionAfter r skip cs
    | 0 =>
      let reading := r.read c cs
      regionAfter reading.next reading.skip cs

section

variable {r : Region} {skip : Nat} {c : Char} {cs u v : List Char}

/-- A text is read from code on. -/
theorem marked_eq (text : List Char) : marked text = markedFrom .code 0 text := rfl

theorem map_fst_markedFrom : (markedFrom r skip cs).map Prod.fst = cs := by
  simp [markedFrom, List.map_fst_zip]

theorem markedFrom_skip :
    markedFrom r (skip + 1) (c :: cs) = (c, false) :: markedFrom r skip cs := rfl

theorem markedFrom_read :
    markedFrom r 0 (c :: cs) = (c, (r.read c cs).isCode) ::
      markedFrom (r.read c cs).next (r.read c cs).skip cs := rfl

theorem regionAfter_skip : regionAfter r (skip + 1) (c :: cs) = regionAfter r skip cs := rfl

theorem regionAfter_read :
    regionAfter r 0 (c :: cs) = regionAfter (r.read c cs).next (r.read c cs).skip cs := rfl

/-- In front of a neutral rest a text is read as on its own, and the rest from the region behind
    it. -/
theorem markedFrom_append (hr : r.Valid) (hskip : skip ≤ u.length)
    (hv : v.head?.all isNeutral = true) :
    markedFrom r skip (u ++ v) = markedFrom r skip u ++ markedFrom (regionAfter r skip u) 0 v := by
  induction u generalizing r skip with
  | nil =>
    obtain rfl : skip = 0 := Nat.le_zero.1 hskip
    rfl
  | cons c u ih =>
    rw [List.cons_append]
    cases skip with
    | succ skip =>
      rw [markedFrom_skip, markedFrom_skip, regionAfter_skip,
        ih hr (Nat.le_of_succ_le_succ hskip)]
      rfl
    | zero =>
      -- The first character is read with a look at all of the text, or at its own part only.
      rw [markedFrom_read, markedFrom_read, regionAfter_read,
        Region.read_congr hr c (alongside_append hv u),
        ih (hr.next_read c u) (r.skip_read_le c u)]
      rfl

/-- A whole text in front of a neutral rest. -/
theorem marked_append (hv : v.head?.all isNeutral = true) (u : List Char) :
    marked (u ++ v) = marked u ++ markedFrom (regionAfter .code 0 u) 0 v :=
  markedFrom_append Region.valid_code (Nat.zero_le _) hv

/-- Characters that are code whatever follows them are read one by one. -/
theorem markedFrom_code_append (hu : ∀ c ∈ u, Region.isPlain c = true) :
    markedFrom .code 0 (u ++ v) = u.map (·, true) ++ markedFrom .code 0 v := by
  induction u with
  | nil => rfl
  | cons c u ih =>
    rw [List.cons_append, markedFrom_read,
      Region.read_code_of_isPlain (hu c List.mem_cons_self),
      ih fun d hd => hu d (List.mem_cons_of_mem c hd)]
    rfl

end

end QueryBook.Sql
