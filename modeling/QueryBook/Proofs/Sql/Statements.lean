import QueryBook.Bound
import QueryBook.Proofs.Sql.Parts

namespace QueryBook.Sql

/-!
# Binding the statements of a text one by one

A question mark in the place of a reference is read like the reference. So the statements of a text,
bound one by one where every mark is a bare question mark, are the statements of the bound text.

* `bare`, `namesInCode` — a text with question marks in the place of its references; their names.
* `readAlike_bare` — question marks change no region and bring about no cut.
* `splitMarked_bare`, `bare_trimChars` — they may be put in before or after cutting and trimming.
* `statements_rewrite` — binding and splitting commute.
-/

open Text (Trimmed isBlankChar trimChars)

/-! ### Question marks in the place of references -/

/-- The character that stands for a token where marks bear no number. -/
def Token.bare : Token → Char
  | verbatim c => c
  | reference _ => '?'

/-- The name of a reference. -/
def Token.name? : Token → Option String
  | verbatim _ => none
  | reference name => some (String.ofList name)

/-- A text with question marks in the place of its references in code. -/
def bare (text : List Char) : List Char := (tokens text).map Token.bare

/-- The names of the references in code, in order and with repetitions. -/
def namesInCode (text : List Char) : List String := (tokens text).filterMap Token.name?

/-- Where marks bear no number a question mark stands for each reference, and all names are
    bound. -/
theorem rewriteTokens_anonymous (names : List String) (ts : List Token) :
    rewriteTokens .anonymous names ts =
      ⟨ts.map Token.bare, names ++ ts.filterMap Token.name?⟩ := by
  induction ts generalizing names with
  | nil => simp [rewriteTokens]
  | cons t ts ih =>
    cases t with
    | verbatim c =>
      rw [rewriteTokens, ih]
      rfl
    | reference name =>
      show Rewritten.mk ('?' :: (rewriteTokens .anonymous (names ++ [_]) ts).sql)
        (rewriteTokens .anonymous (names ++ [_]) ts).names = _
      rw [ih, List.append_assoc]
      rfl

/-- The text and the names where marks bear no number. -/
theorem rewrite_anonymous (text : List Char) :
    rewrite .anonymous text = ⟨bare text, namesInCode text⟩ :=
  rewriteTokens_anonymous [] (tokens text)

/-- No look ahead tells a question mark from a reference. -/
theorem alongside_tokensFrom (before : Option Char) (l : List (Char × Bool)) :
    Alongside ((tokensFrom before l).map Token.bare) (l.map Prod.fst) := by
  fun_induction tokensFrom before l with
  | case1 => exact .stop rfl rfl
  | case2 before c isCode rest hc name hshort ih =>
    simp only [Bool.and_eq_true, beq_iff_eq] at hc
    obtain ⟨⟨⟨-, rfl⟩, -⟩, -⟩ := hc
    apply Alongside.stop
    · show isNeutral '?' = true
      decide
    · show isNeutral '@' = true
      decide
  | case3 before c isCode rest hc ih => exact .cons c ih

/-- Behind a name in code the text is read as from the beginning. -/
theorem dropWhile_markedFrom_code (cs : List Char) :
    (markedFrom .code 0 cs).dropWhile (fun m => isNameChar m.1) =
        markedFrom .code 0 (cs.dropWhile isNameChar) ∧
      regionAfter .code 0 (cs.dropWhile isNameChar) = regionAfter .code 0 cs := by
  induction cs with
  | nil => exact ⟨rfl, rfl⟩
  | cons c cs ih =>
    by_cases hc : isNameChar c = true
    · have hread := Region.read_code_of_isPlain (Region.isPlain_of_isNameChar hc) cs
      rw [List.dropWhile_cons_of_pos hc, markedFrom_read, regionAfter_read, hread,
        List.dropWhile_cons_of_pos (by exact hc)]
      exact ih
    · rw [List.dropWhile_cons_of_neg hc, markedFrom_read,
        List.dropWhile_cons_of_neg (by exact hc)]
      exact ⟨rfl, rfl⟩

/-- What question marks in the place of references leave as it is: the region behind the text, and
    that no semicolon is code. -/
structure ReadAlike (r : Region) (skip : Nat) (cs ds : List Char) : Prop where
  region : regionAfter r skip ds = regionAfter r skip cs
  cut : (';', true) ∈ markedFrom r skip ds → (';', true) ∈ markedFrom r skip cs

section

variable {r : Region} {skip : Nat} {c : Char} {cs ds : List Char}

/-- Texts are read alike if a character that both skip is put in front. -/
theorem ReadAlike.skipped (h : ReadAlike r skip cs ds) :
    ReadAlike r (skip + 1) (c :: cs) (c :: ds) := by
  refine ⟨h.region, ?_⟩
  rw [markedFrom_skip, markedFrom_skip, List.mem_cons, List.mem_cons]
  exact Or.imp_right h.cut

/-- A character is read alike in front of texts that no look ahead tells apart. -/
theorem ReadAlike.read (hr : r.Valid) (halong : Alongside ds cs)
    (h : ReadAlike (r.read c cs).next (r.read c cs).skip cs ds) :
    ReadAlike r 0 (c :: cs) (c :: ds) := by
  have hread := Region.read_congr hr c halong
  refine ⟨?_, ?_⟩
  · rw [regionAfter_read, regionAfter_read, hread]
    exact h.region
  · rw [markedFrom_read, markedFrom_read, hread, List.mem_cons, List.mem_cons]
    exact Or.imp_right h.cut

/-- A reference in code is read like a question mark. -/
theorem ReadAlike.reference (h : ReadAlike .code 0 (cs.dropWhile isNameChar) ds) :
    ReadAlike .code 0 ('@' :: cs) ('?' :: ds) := by
  obtain ⟨hmarked, hregion⟩ := dropWhile_markedFrom_code cs
  -- Both characters are plain code; the name behind the first one is left out.
  have hmark : Region.code.read '?' ds = ⟨true, .code, 0⟩ :=
    Region.read_code_of_isPlain (by decide) ds
  have hat : Region.code.read '@' cs = ⟨true, .code, 0⟩ :=
    Region.read_code_of_isPlain (by decide) cs
  refine ⟨?_, ?_⟩
  · rw [regionAfter_read, regionAfter_read, hmark, hat, h.region, hregion]
  · rw [markedFrom_read, markedFrom_read, hmark, hat]
    intro hmem
    rcases List.mem_cons.1 hmem with hmem | hmem
    · exact absurd (congrArg Prod.fst hmem) (by decide)
    · apply List.mem_cons_of_mem
      have hrest := h.cut hmem
      rw [← hmarked] at hrest
      exact (List.dropWhile_suffix _).mem hrest

end

/-- Question marks in the place of references are read like these. -/
theorem readAlike_bare {r : Region} (hr : r.Valid) (skip : Nat) (before : Option Char)
    (cs : List Char) :
    ReadAlike r skip cs ((tokensFrom before (markedFrom r skip cs)).map Token.bare) := by
  match cs, skip with
  | [], skip =>
    rw [markedFrom, List.zip_nil_left, tokensFrom]
    exact ⟨rfl, id⟩
  | c :: cs, skip + 1 =>
    rw [markedFrom_skip, tokensFrom, if_neg (by simp)]
    exact (readAlike_bare hr skip (some c) cs).skipped
  | c :: cs, 0 =>
    by_cases hbegins : ((r.read c cs).isCode && c == '@' && mayPrecede before &&
        ((markedFrom (r.read c cs).next (r.read c cs).skip cs).head?.map Prod.fst).any
          isNameStart) = true
    · -- A reference is in code, and so is what follows its name.
      rw [markedFrom_read, tokensFrom_of_begins hbegins]
      simp only [Bool.and_eq_true, beq_iff_eq] at hbegins
      obtain ⟨⟨⟨hcode, rfl⟩, -⟩, -⟩ := hbegins
      obtain ⟨rfl, hread⟩ := Region.read_of_isCode hcode
      rw [hread, (dropWhile_markedFrom_code cs).1]
      have hle : (cs.dropWhile isNameChar).length ≤ cs.length :=
        Text.length_dropWhile_le isNameChar cs
      exact (readAlike_bare hr 0 _ (cs.dropWhile isNameChar)).reference
    · -- A character that stays, in front of a text that no look ahead tells from the bound one.
      rw [markedFrom_read, tokensFrom, if_neg hbegins]
      refine ReadAlike.read hr ?_ (readAlike_bare (hr.next_read c cs) _ (some c) cs)
      have halong := alongside_tokensFrom (some c)
        (markedFrom (r.read c cs).next (r.read c cs).skip cs)
      rwa [map_fst_markedFrom] at halong
termination_by cs.length

/-! ### Parts of the bound text -/

section

variable {u blanks blanks' core : List Char}

/-- Question marks leave the region behind a text. -/
theorem regionAfter_bare (text : List Char) :
    regionAfter .code 0 (bare text) = regionAfter .code 0 text :=
  (readAlike_bare Region.valid_code 0 none text).region

/-- Question marks bring no semicolon into code. -/
theorem not_mem_marked_bare {text : List Char} (h : (';', true) ∉ marked text) :
    (';', true) ∉ marked (bare text) :=
  fun hmem => h ((readAlike_bare Region.valid_code 0 none text).cut hmem)

/-- Parts that a semicolon in code divides take question marks one by one. -/
theorem bare_append_semicolon (hu : regionAfter .code 0 u = .code) (v : List Char) :
    bare (u ++ ';' :: v) = bare u ++ ';' :: bare v := by
  rw [bare, tokens_append_semicolon hu, List.map_append]
  rfl

/-- Blanks around a text stay when it takes question marks. -/
theorem bare_between_blanks (h : ∀ c ∈ blanks, isBlankChar c = true)
    (h' : ∀ c ∈ blanks', isBlankChar c = true) (core : List Char) :
    bare (blanks ++ core ++ blanks') = blanks ++ bare core ++ blanks' := by
  have hbare : ∀ cs : List Char, (cs.map Token.verbatim).map Token.bare = cs := by
    intro cs
    rw [List.map_map]
    exact List.map_id cs
  rw [bare, tokens_between_blanks h h', List.map_append, List.map_append, hbare, hbare, bare]

/-- The parts of a text with question marks are the parts with question marks. -/
theorem splitMarked_bare (text : List Char) :
    splitMarked (marked (bare text)) = (splitMarked (marked text)).map bare := by
  induction text using cut_induction with
  | whole text h =>
    rw [splitMarked_of_not_mem h, splitMarked_of_not_mem (not_mem_marked_bare h),
      map_fst_marked, map_fst_marked]
    rfl
  | cut u v hu hcode ih =>
    -- The semicolon behind the bound text is code as well.
    have hbare : regionAfter .code 0 (bare u) = .code := (regionAfter_bare u).trans hcode
    rw [bare_append_semicolon hcode, marked_append_semicolon hbare,
      marked_append_semicolon hcode, splitMarked_append, splitMarked_append, ih,
      splitMarked_of_not_mem hu, splitMarked_of_not_mem (not_mem_marked_bare hu),
      map_fst_marked, map_fst_marked, List.map_append]
    rfl

/-- The references of a text are those of its parts. -/
theorem flatMap_namesInCode_splitMarked (text : List Char) :
    (splitMarked (marked text)).flatMap namesInCode = namesInCode text := by
  induction text using cut_induction with
  | whole text h => rw [splitMarked_of_not_mem h, map_fst_marked, List.flatMap_singleton]
  | cut u v hu hcode ih =>
    rw [marked_append_semicolon hcode, splitMarked_append, List.flatMap_append, ih,
      splitMarked_of_not_mem hu, map_fst_marked, List.flatMap_singleton, namesInCode,
      namesInCode, namesInCode, tokens_append_semicolon hcode, List.filterMap_append]
    rfl

end

/-! ### Blanks at the ends of a part -/

/-- The tokens of a text make it up. -/
theorem flatMap_text_tokens (text : List Char) : (tokens text).flatMap Token.text = text := by
  rw [tokens, flatMap_text_tokensFrom, map_fst_marked]

/-- A question mark is no blank, and other characters are as they were. -/
theorem isBlankChar_bare {t : Token} (h : ∀ c, t = .verbatim c → isBlankChar c = false) :
    isBlankChar t.bare = false := by
  cases t with
  | verbatim c => exact h c rfl
  | reference name =>
    show isBlankChar '?' = false
    decide

/-- Question marks are no blanks, so that a trimmed text stays trimmed. -/
theorem trimmed_bare {core : List Char} (h : Trimmed core) : Trimmed (bare core) := by
  have htext := flatMap_text_tokens core
  refine ⟨?_, ?_⟩
  · intro c hc
    rw [bare, List.head?_map] at hc
    obtain ⟨t, ht, rfl⟩ := Option.map_eq_some_iff.1 hc
    obtain ⟨ts, hts⟩ := List.head?_eq_some_iff.1 ht
    apply isBlankChar_bare
    rintro c rfl
    apply h.1 c
    rw [← htext, hts]
    rfl
  · intro c hc
    rw [bare, List.getLast?_map] at hc
    obtain ⟨t, ht, rfl⟩ := Option.map_eq_some_iff.1 hc
    obtain ⟨ts, hts⟩ := List.getLast?_eq_some_iff.1 ht
    apply isBlankChar_bare
    rintro c rfl
    apply h.2 c
    rw [← htext, hts, List.flatMap_append, List.flatMap_singleton, Token.text,
      List.getLast?_concat]
    rfl

/-- Only the empty text is empty with question marks. -/
theorem bare_eq_nil {text : List Char} : bare text = [] ↔ text = [] := by
  rw [bare, List.map_eq_nil_iff]
  refine ⟨?_, ?_⟩
  · intro h
    rw [← flatMap_text_tokens text, h, List.flatMap_nil]
  · rintro rfl
    simp [tokens, marked, tokensFrom]

theorem isEmpty_bare (text : List Char) : (bare text).isEmpty = text.isEmpty := by
  rw [Bool.eq_iff_iff, List.isEmpty_iff, List.isEmpty_iff, bare_eq_nil]

/-- Trimming changes neither the question marks of a text nor its references. -/
theorem bare_trimChars (text : List Char) :
    trimChars (bare text) = bare (trimChars text) ∧
      namesInCode (trimChars text) = namesInCode text := by
  obtain ⟨before, after, htext, hbefore, hafter⟩ := Text.exists_trimChars text
  have htrimmed := trimmed_bare (Text.trimmed_trimChars text)
  have hnone : ∀ cs : List Char, (cs.map Token.verbatim).filterMap Token.name? = [] := by
    intro cs
    rw [List.filterMap_map, List.filterMap_eq_nil_iff]
    intro c _
    rfl
  refine ⟨?_, ?_⟩
  · conv_lhs => rw [htext, bare_between_blanks hbefore hafter]
    exact Text.trimChars_append htrimmed hbefore hafter
  · conv_rhs => rw [htext, namesInCode, tokens_between_blanks hbefore hafter,
      List.filterMap_append, List.filterMap_append, hnone, hnone, List.nil_append, List.append_nil]
    rfl

/-- A part stays without semicolons in code when it is trimmed. -/
theorem not_mem_marked_trimChars {text : List Char} (h : (';', true) ∉ marked text) :
    (';', true) ∉ marked (trimChars text) := by
  obtain ⟨before, after, htext, hbefore, hafter⟩ := Text.exists_trimChars text
  intro hmem
  apply h
  rw [htext, marked_between_blanks hbefore hafter]
  exact List.mem_append_right _ (List.mem_append_left _ hmem)

/-- Every statement is a part of its own. -/
theorem statements_of_mem {text part : List Char} (h : part ∈ statements text) :
    part.all isBlankChar = false ∧ statements part = [part] := by
  have hne := ne_nil_of_mem_statements h
  rw [statements, List.mem_filter, List.mem_map] at h
  obtain ⟨⟨whole, hwhole, rfl⟩, -⟩ := h
  have htrim : trimChars (trimChars whole) = trimChars whole := by
    have happend : trimChars ([] ++ trimChars whole ++ []) = trimChars whole :=
      Text.trimChars_append (Text.trimmed_trimChars whole) (by simp) (by simp)
    rwa [List.nil_append, List.append_nil] at happend
  -- No semicolon of the part is in code, also when the part is read on its own.
  have hcut := not_mem_marked_trimChars (not_mem_marked_of_mem_splitMarked hwhole)
  refine ⟨?_, ?_⟩
  · rw [Bool.eq_false_iff]
    intro hall
    rw [← Text.trimChars_eq_nil, htrim] at hall
    exact hne hall
  · rw [statements, splitMarked_of_not_mem hcut, map_fst_marked, List.map_singleton, htrim]
    exact List.filter_cons_of_pos (by simpa using hne)

/-! ### Binding and splitting -/

/-- To cut a text into statements and then put question marks is to put them first. -/
theorem map_bare_statements (text : List Char) :
    (statements text).map bare = statements (bare text) := by
  let parts := splitMarked (marked text)
  have htrim : (parts.map bare).map trimChars = (parts.map trimChars).map bare := by
    rw [List.map_map, List.map_map]
    exact List.map_congr_left fun part _ => (bare_trimChars part).1
  -- Each token gives one character, so a part is empty exactly if its bare form is.
  have hempty : (fun part : List Char => !part.isEmpty) ∘ bare = fun part => !part.isEmpty := by
    funext part
    exact congrArg not (isEmpty_bare part)
  calc (statements text).map bare
      = ((parts.map trimChars).filter ((fun part => !part.isEmpty) ∘ bare)).map bare := by
        rw [hempty]
        rfl
    _ = ((parts.map trimChars).map bare).filter fun part => !part.isEmpty :=
        List.filter_map.symm
    _ = statements (bare text) := by rw [← htrim, statements, splitMarked_bare]

/-- References stand only in parts that are statements. -/
theorem flatMap_namesInCode_statements (text : List Char) :
    (statements text).flatMap namesInCode = namesInCode text := by
  have hblank : namesInCode [] = [] := by simp [namesInCode, tokens, marked, tokensFrom]
  have hparts : ∀ parts : List (List Char),
      ((parts.map trimChars).filter fun part => !part.isEmpty).flatMap namesInCode =
        parts.flatMap namesInCode := by
    intro parts
    induction parts with
    | nil => rfl
    | cons part parts ih =>
      rw [List.map_cons, List.flatMap_cons, ← (bare_trimChars part).2]
      cases hpart : trimChars part with
      | nil => rw [List.filter_cons_of_neg (by simp), ih, hblank, List.nil_append]
      | cons c cs => rw [List.filter_cons_of_pos (by simp), List.flatMap_cons, ih]
  rw [statements, hparts, flatMap_namesInCode_splitMarked]

/-- **Binding and splitting commute.** Where every mark is a bare question mark, the bound texts of
    a text's statements are the statements of the bound text; the names and the values bound for
    them are those bound for the whole text, in order. Every statement has a character that is no
    blank, and is its own only statement. -/
theorem statements_rewrite (text : List Char) :
    (statements text).map (fun part => (rewrite .anonymous part).sql) =
        statements (rewrite .anonymous text).sql ∧
      (statements text).flatMap (fun part => (rewrite .anonymous part).names) =
        (rewrite .anonymous text).names ∧
      (∀ p : Parameters,
        (statements text).flatMap (fun part => (bindText part .anonymous p).values) =
          (bindText text .anonymous p).values) ∧
      ∀ part ∈ statements text, part.all isBlankChar = false ∧ statements part = [part] := by
  have hnames := flatMap_namesInCode_statements text
  simp only [bindText, rewrite_anonymous]
  refine ⟨map_bare_statements text, hnames, ?_, fun part hpart => statements_of_mem hpart⟩
  intro p
  show (statements text).flatMap (fun part => (namesInCode part).map _) = (namesInCode text).map _
  rw [← hnames, List.map_flatMap]

/-- A text with a reference in a comment, a semicolon in quotes, an empty part and, between tags
    that never close, a last part. -/
def cutText : List Char := "\u00A0a = @a; ; '; @b' -- ; @c\n@a ;\u3000$x$ ; @d".toList

/-- The first statement of the text is `a = @a`, and it is a statement by itself. -/
theorem statements_rewrite_cutText :
    "a = @a".toList ∈ statements cutText ∧ statements "a = @a".toList = ["a = @a".toList] := by
  have hmem : "a = @a".toList ∈ statements cutText := by decide +kernel
  exact ⟨hmem, ((statements_rewrite cutText).2.2.2 _ hmem).2⟩

/-- Only references in code are bound. -/
example : (rewrite .anonymous cutText).names = ["a", "a"] := by decide +kernel

end QueryBook.Sql
