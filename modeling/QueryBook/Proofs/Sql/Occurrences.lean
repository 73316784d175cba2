import QueryBook.Proofs.Template.Placement
import QueryBook.Sql.Placeholder

namespace QueryBook

/-!
# Which references give way

References are found in two ways. A search reads a text character by character and heeds nothing;
the rewriting for a driver takes whole names and heeds only what is code. Both find what one pattern
says: a character that may precede a reference, an `@`, and a name.

* `matchesFrom`, `references_eq_matchesFrom` — the search finds the matches of the pattern, each
  behind the one before and as long as possible, the character in front of the `@` included.
* `Sql.occurrences` — the references that the rewriting replaces, each with its place.
* `Sql.occurrencesFrom_tokensFrom` — they are those whose `@` is code.
* `Sql.replaced_rewrite` — their ranges, and nothing else, give way to marks.
* `Sql.mem_referencedNames_of_mem_rewrite` — the text refers to every name that is bound.
* `Sql.occurrences_eq_filter_references` — the two ways agree, whatever the style.
-/

open Text (Replaced)

/-! ### Names -/

/-- What begins a name may also stand in it. -/
theorem isNameChar_of_isNameStart {c : Char} (h : isNameStart c = true) : isNameChar c = true := by
  simp only [isNameStart, isNameChar, Char.isAlphanum, Bool.or_eq_true] at h ⊢
  rcases h with h | h
  · exact .inl (.inl h)
  · exact .inr h

/-- No reference begins behind a character of a name. -/
theorem mayPrecede_eq_false_of_isNameChar {c : Char} (h : isNameChar c = true) :
    mayPrecede (some c) = false := by
  simp [mayPrecede, h]

/-- No reference begins at a character of a name. -/
theorem referencesFrom_dropWhile (before : Option Char) (place : Nat) (cs : List Char) :
    referencesFrom before place cs =
      referencesFrom ((cs.takeWhile isNameChar).getLast?.or before)
        (place + (cs.takeWhile isNameChar).length) (cs.dropWhile isNameChar) := by
  induction cs generalizing before place with
  | nil => simp
  | cons c cs ih =>
    by_cases hc : isNameChar c = true
    · -- No reference starts at a character of a name.
      have hat : c ≠ '@' := by
        rintro rfl
        exact absurd hc (by decide)
      rw [List.takeWhile_cons_of_pos hc, List.dropWhile_cons_of_pos hc, referencesFrom,
        if_neg (by simp [hat]), ih, List.length_cons, List.getLast?_cons]
      congr 1
      · cases (cs.takeWhile isNameChar).getLast? <;> rfl
      · omega
    · rw [List.takeWhile_cons_of_neg hc, List.dropWhile_cons_of_neg hc]
      simp

/-- A name that begins is not empty, and its last character is one of a name. -/
theorem exists_getLast?_of_isNameStart {cs : List Char} (h : cs.head?.any isNameStart = true) :
    ∃ c, (cs.takeWhile isNameChar).getLast? = some c ∧ isNameChar c = true := by
  cases cs with
  | nil => simp at h
  | cons c cs =>
    have hc : isNameChar c = true := isNameChar_of_isNameStart h
    have hne : (c :: cs).takeWhile isNameChar ≠ [] := by simp [hc]
    refine ⟨_, List.getLast?_eq_some_getLast hne, ?_⟩
    exact List.all_eq_true.1 List.all_takeWhile _ (List.getLast_mem hne)

/-- Where a reference begins, the search goes on behind its name. -/
theorem referencesFrom_at {before : Option Char} {cs : List Char} (place : Nat)
    (hbefore : mayPrecede before = true) (hstart : cs.head?.any isNameStart = true) :
    referencesFrom before place ('@' :: cs) =
      ⟨String.ofList (cs.takeWhile isNameChar), place⟩ ::
        referencesFrom (cs.takeWhile isNameChar).getLast?
          (place + 1 + (cs.takeWhile isNameChar).length) (cs.dropWhile isNameChar) := by
  obtain ⟨c, hlast, -⟩ := exists_getLast?_of_isNameStart hstart
  rw [referencesFrom, if_pos (by simp [hbefore, hstart]), referencesFrom_dropWhile, hlast]
  rfl

/-! ### The references as matches of a pattern -/

/-- The name behind the `@` that a text begins with, as long as it can be, and what follows. -/
def nameAt? : List Char → Option (List Char × List Char)
  | [] => none
  | c :: cs =>
    if c = '@' ∧ cs.head?.any isNameStart = true then
      some (cs.takeWhile isNameChar, cs.dropWhile isNameChar)
    else none

/-- The match of the pattern at a place: how many characters stand in front of the `@`, the name,
    and what follows. At the beginning of a text there may be none in front; else there is one. -/
def matchAt? (place : Nat) : List Char → Option (Nat × List Char × List Char)
  | [] => none
  | c :: cs =>
    if place = 0 ∧ (nameAt? (c :: cs)).isSome then (nameAt? (c :: cs)).map fun m => (0, m)
    else if mayPrecede (some c) then (nameAt? cs).map fun m => (1, m)
    else none

/-- Behind a name less is left. -/
theorem length_lt_of_nameAt? {cs name rest : List Char} (h : nameAt? cs = some (name, rest)) :
    rest.length < cs.length := by
  cases cs with
  | nil => simp [nameAt?] at h
  | cons c cs =>
    simp only [nameAt?, Option.ite_none_right_eq_some, Option.some.injEq, Prod.mk.injEq] at h
    obtain ⟨-, -, rfl⟩ := h
    exact Nat.lt_succ_of_le (Text.length_dropWhile_le isNameChar cs)

/-- Behind a match less is left, so that the search ends. -/
theorem length_lt_of_matchAt? {place lead : Nat} {cs name rest : List Char}
    (h : matchAt? place cs = some (lead, name, rest)) : rest.length < cs.length := by
  cases cs with
  | nil => simp [matchAt?] at h
  | cons c cs =>
    rw [matchAt?] at h
    split at h
    · obtain ⟨m, hm, he⟩ := Option.map_eq_some_iff.1 h
      cases he
      exact length_lt_of_nameAt? hm
    · split at h
      · obtain ⟨m, hm, he⟩ := Option.map_eq_some_iff.1 h
        cases he
        exact Nat.lt_succ_of_lt (length_lt_of_nameAt? hm)
      · simp at h

/-- The matches of the pattern from a place on: the leftmost one, then those behind it. What belongs
    to a match is not read again. -/
def matchesFrom (place : Nat) (cs : List Char) : List Reference :=
  match h : matchAt? place cs with
  | some (lead, name, rest) =>
    have := length_lt_of_matchAt? h
    ⟨String.ofList name, place + lead⟩ :: matchesFrom (place + lead + 1 + name.length) rest
  | none =>
    match cs with
    | [] => []
    | _ :: cs => matchesFrom (place + 1) cs
termination_by cs.length

section

variable {before : Option Char} {place : Nat} {c : Char} {cs name rest : List Char}

/-- Where a name is read the search finds a reference, if one may begin there. -/
theorem referencesFrom_of_nameAt? (place : Nat) (hname : nameAt? cs = some (name, rest))
    (hbefore : mayPrecede before = true) :
    referencesFrom before place cs =
        ⟨String.ofList name, place⟩ ::
          referencesFrom name.getLast? (place + 1 + name.length) rest ∧
      mayPrecede name.getLast? = false := by
  cases cs with
  | nil => simp [nameAt?] at hname
  | cons c cs =>
    simp only [nameAt?, Option.ite_none_right_eq_some, Option.some.injEq, Prod.mk.injEq] at hname
    obtain ⟨⟨rfl, hstart⟩, rfl, rfl⟩ := hname
    obtain ⟨d, hlast, hd⟩ := exists_getLast?_of_isNameStart hstart
    refine ⟨referencesFrom_at place hbefore hstart, ?_⟩
    rw [hlast]
    exact mayPrecede_eq_false_of_isNameChar hd

/-- Where none may begin, or no name is read, the search goes on. -/
theorem referencesFrom_cons_of_not (h : ¬ (mayPrecede before = true ∧ (nameAt? (c :: cs)).isSome)) :
    referencesFrom before place (c :: cs) = referencesFrom (some c) (place + 1) cs := by
  rw [referencesFrom, if_neg]
  intro hc
  simp only [Bool.and_eq_true, beq_iff_eq] at hc
  obtain ⟨⟨rfl, hbefore⟩, hstart⟩ := hc
  exact h ⟨hbefore, by simp [nameAt?, hstart]⟩

/-- The search finds what the pattern finds from a place on where it is not in the middle of a
    match: at the beginning, or where no reference begins. -/
theorem matchesFrom_eq_referencesFrom (hzero : place = 0 → mayPrecede before = true)
    (hpos : place ≠ 0 → ¬ (mayPrecede before = true ∧ (nameAt? cs).isSome)) :
    matchesFrom place cs = referencesFrom before place cs := by
  fun_induction matchesFrom place cs generalizing before with
  | case1 place cs lead name rest hmatch hlt ih =>
    -- What follows a match follows a character of a name.
    have hih : ∀ {last}, mayPrecede last = false →
        matchesFrom (place + lead + 1 + name.length) rest =
          referencesFrom last (place + lead + 1 + name.length) rest := by
      intro last hlast
      exact ih (fun h => absurd h (by omega)) fun _ h => by simp [hlast] at h
    cases cs with
    | nil => simp [matchAt?] at hmatch
    | cons c cs =>
      rw [matchAt?] at hmatch
      split at hmatch
      · next hfirst =>
        obtain ⟨m, hm, he⟩ := Option.map_eq_some_iff.1 hmatch
        cases he
        obtain ⟨hfound, hlast⟩ := referencesFrom_of_nameAt? place hm (hzero hfirst.1)
        rw [hfound, hih hlast]
        rfl
      · next hfirst =>
        split at hmatch
        · next hc =>
          obtain ⟨m, hm, he⟩ := Option.map_eq_some_iff.1 hmatch
          cases he
          have hnot : ¬ (mayPrecede before = true ∧ (nameAt? (c :: cs)).isSome) := by
            by_cases hplace : place = 0
            · exact fun h => hfirst ⟨hplace, h.2⟩
            · exact hpos hplace
          obtain ⟨hfound, hlast⟩ := referencesFrom_of_nameAt? (place + 1) hm hc
          rw [referencesFrom_cons_of_not hnot, hfound, hih hlast]
        · simp at hmatch
  | case2 place hmatch => rfl
  | case3 place c cs hmatch ih =>
    rw [matchAt?] at hmatch
    have hnot : ¬ (mayPrecede before = true ∧ (nameAt? (c :: cs)).isSome) := by
      by_cases hplace : place = 0
      · intro h
        simp [hplace, h.2, Option.isSome_iff_ne_none.1 h.2] at hmatch
      · exact hpos hplace
    rw [referencesFrom_cons_of_not hnot]
    apply ih
    · intro h
      omega
    · rintro - ⟨hc, hsome⟩
      split at hmatch
      · next hfirst => simp [Option.isSome_iff_ne_none.1 hfirst.2] at hmatch
      · simp [Option.isSome_iff_ne_none.1 hsome] at hmatch

end

/-- The references of a text are the matches of the pattern. -/
theorem references_eq_matchesFrom (text : List Char) : references text = matchesFrom 0 text :=
  (matchesFrom_eq_referencesFrom (fun _ => rfl) fun h => absurd rfl h).symm

namespace Sql

/-! ### The references that give way -/

/-- The references among tokens, the first of which is at a place. -/
def occurrencesFrom (place : Nat) : List Token → List Reference
  | [] => []
  | .verbatim _ :: ts => occurrencesFrom (place + 1) ts
  | .reference name :: ts =>
    ⟨String.ofList name, place⟩ :: occurrencesFrom (place + 1 + name.length) ts

/-- The references of a text that give way, in order. -/
def occurrences (text : List Char) : List Reference := occurrencesFrom 0 (tokens text)

/-- Whether a place of a text is code. -/
def IsCode (text : List Char) (place : Nat) : Prop := (codeMask text)[place]? = some true

instance (text : List Char) (place : Nat) : Decidable (IsCode text place) :=
  inferInstanceAs (Decidable (_ = _))

/-- The characters of a token. -/
def Token.text : Token → List Char
  | verbatim c => [c]
  | reference name => '@' :: name

/-- Among marked characters that stand behind others, the references that give way are those whose
    `@` is marked as code. -/
theorem occurrencesFrom_tokensFrom (before : Option Char) (l : List (Char × Bool))
    (mask : List Bool) :
    occurrencesFrom mask.length (tokensFrom before l) =
      (referencesFrom before mask.length (l.map Prod.fst)).filter fun r =>
        decide ((mask ++ l.map Prod.snd)[r.start]? = some true) := by
  fun_induction tokensFrom before l generalizing mask with
  | case1 => rfl
  | case2 before c isCode rest hc name hshort ih =>
    simp only [Bool.and_eq_true, beq_iff_eq] at hc
    obtain ⟨⟨⟨rfl, rfl⟩, hbefore⟩, hstart⟩ := hc
    have hhead : (rest.map Prod.fst).head?.any isNameStart = true := by rwa [List.head?_map]
    have hname : (rest.map Prod.fst).takeWhile isNameChar = name := by
      rw [List.takeWhile_map]
      rfl
    have hrest : (rest.map Prod.fst).dropWhile isNameChar =
        (rest.dropWhile fun m => isNameChar m.1).map Prod.fst := by
      rw [List.dropWhile_map]
      rfl
    -- Behind the name the marks are those behind as many characters.
    let marks := (rest.takeWhile fun m => isNameChar m.1).map Prod.snd
    have hmask : mask ++ true :: rest.map Prod.snd =
        mask ++ [true] ++ marks ++ (rest.dropWhile fun m => isNameChar m.1).map Prod.snd := by
      rw [List.append_assoc, ← List.map_append, List.takeWhile_append_dropWhile,
        List.append_assoc, List.singleton_append]
    have hlen : (mask ++ [true] ++ marks).length = mask.length + 1 + name.length := by
      simp only [List.length_append, List.length_singleton, marks, name, List.length_map]
    have hih := ih (mask ++ [true] ++ marks)
    rw [hlen] at hih
    rw [occurrencesFrom, hih, List.map_cons, List.map_cons, referencesFrom_at _ hbefore hhead,
      hname, hrest, List.filter_cons_of_pos (by simp), hmask]
  | case3 before c isCode rest hc ih =>
    have hih := ih (mask ++ [isCode])
    rw [List.append_assoc, List.singleton_append, List.length_append, List.length_singleton] at hih
    rw [occurrencesFrom, hih, List.map_cons, List.map_cons, referencesFrom]
    split
    · next hfound =>
      -- A reference is found here, but its `@` is not code.
      have hcode : isCode = false := by
        rw [List.head?_map] at hfound
        cases isCode with
        | false => rfl
        | true => exact absurd (by simpa using hfound) hc
      rw [List.filter_cons_of_neg (by simp [hcode])]
    · rfl

/-- The references that give way are those whose `@` is code. -/
theorem occurrences_eq (text : List Char) :
    occurrences text = (references text).filter fun r => decide (IsCode text r.start) := by
  have hfrom := occurrencesFrom_tokensFrom none (marked text) []
  have hsnd : (marked text).map Prod.snd = codeMask text := by
    rw [marked, List.map_snd_zip]
    simp
  rwa [map_fst_marked, hsnd] at hfrom

/-! ### What takes their place -/

/-- The tokens of a text make it up. -/
theorem flatMap_text_tokensFrom (before : Option Char) (l : List (Char × Bool)) :
    (tokensFrom before l).flatMap Token.text = l.map Prod.fst := by
  fun_induction tokensFrom before l with
  | case1 => rfl
  | case2 before c isCode rest hc name hshort ih =>
    simp only [Bool.and_eq_true, beq_iff_eq] at hc
    rw [List.flatMap_cons, ih, Token.text, List.map_cons, hc.1.1.2, List.cons_append,
      ← List.map_append, List.takeWhile_append_dropWhile]
  | case3 before c isCode rest hc ih =>
    rw [List.flatMap_cons, ih]
    rfl

/-- A name that gets a number is found at it, and the names before it stay. -/
theorem getElem?_number (style : PlaceholderStyle) (names : List String) (name : String) :
    ∃ i, (style.number names name).2 = i + 1 ∧ (style.number names name).1[i]? = some name ∧
      names <+: (style.number names name).1 := by
  let Fits (r : List String × Nat) : Prop :=
    ∃ i, r.2 = i + 1 ∧ r.1[i]? = some name ∧ names <+: r.1
  have hnew : Fits (names ++ [name], names.length + 1) :=
    ⟨names.length, rfl, by simp, List.prefix_append names [name]⟩
  have hfirst {i : Nat} (hi : names.idxOf? name = some i) : Fits (names, i + 1) := by
    obtain ⟨hlt, heq, -⟩ := List.idxOf?_eq_some_iff.1 hi
    exact ⟨i, rfl, by rw [List.getElem?_eq_getElem hlt, heq], List.prefix_rfl⟩
  show Fits (style.number names name)
  fun_cases PlaceholderStyle.number style names name with
  | case1 => exact hnew
  | case2 i hi => exact hfirst ‹_›
  | case3 => exact hnew

/-- The names before stay in their places. -/
theorem prefix_names_rewriteTokens (style : PlaceholderStyle) (names : List String)
    (ts : List Token) : names <+: (rewriteTokens style names ts).names := by
  induction ts generalizing names with
  | nil => exact List.prefix_rfl
  | cons t ts ih =>
    cases t with
    | verbatim c => exact ih names
    | reference name =>
      obtain ⟨-, -, -, hnumber⟩ := getElem?_number style names (String.ofList name)
      exact hnumber.trans (ih _)

/-- The range of a reference: an `@` and its name. -/
theorem span_ofList (place : Nat) (name : List Char) :
    Reference.span ⟨String.ofList name, place⟩ = ⟨place, place + ('@' :: name).length⟩ := by
  rw [Reference.span, String.length_ofList, List.length_cons]
  simp only [Text.Span.mk.injEq, true_and]
  omega

/-- The mark of a name's place among some names takes the place of a reference. -/
def MarkOf (style : PlaceholderStyle) (names : List String) (r : Reference) (new : List Char) :
    Prop :=
  ∃ i, names[i]? = some r.name ∧ new = style.mark (i + 1)

/-- Written out, tokens are the text that they make up, with marks in the place of references. -/
theorem replaced_rewriteTokens (style : PlaceholderStyle) (names : List String) (place : Nat)
    (ts : List Token) :
    Replaced Reference.span (MarkOf style (rewriteTokens style names ts).names) place
      (occurrencesFrom place ts) (ts.flatMap Token.text) (rewriteTokens style names ts).sql := by
  induction ts generalizing names place with
  | nil => exact .rest place []
  | cons t ts ih =>
    cases t with
    | verbatim c => exact (ih names (place + 1)).cons c
    | reference name =>
      obtain ⟨i, hi, hname, -⟩ := getElem?_number style names (String.ofList name)
      obtain ⟨more, hmore⟩ := prefix_names_rewriteTokens style
        (style.number names (String.ofList name)).1 ts
      have hnew : MarkOf style
          (rewriteTokens style (style.number names (String.ofList name)).1 ts).names
          ⟨String.ofList name, place⟩
          (style.mark (style.number names (String.ofList name)).2) := by
        refine ⟨i, ?_, by rw [hi]⟩
        rw [← hmore, List.getElem?_append_left (List.getElem?_eq_some_iff.1 hname).1, hname]
      have hstop : (Reference.span ⟨String.ofList name, place⟩).stop = place + 1 + name.length := by
        rw [Reference.span, String.length_ofList]
      -- The replacement goes on where the range of the reference stops.
      have hrest := ih (style.number names (String.ofList name)).1 (place + 1 + name.length)
      rw [occurrencesFrom]
      generalize occurrencesFrom (place + 1 + name.length) ts = rs at hrest ⊢
      rw [← hstop] at hrest
      -- Nothing stands in front of the reference.
      have hstep : Replaced Reference.span (MarkOf style
          (rewriteTokens style (style.number names (String.ofList name)).1 ts).names) place
          (⟨String.ofList name, place⟩ :: rs) ([] ++ '@' :: name ++ ts.flatMap Token.text)
          ([] ++ _ ++ _) :=
        .step (span_ofList place name) hnew hrest
      exact hstep

/-- The ranges of the references that give way, and nothing else, are replaced by marks. -/
theorem replaced_rewrite (style : PlaceholderStyle) (text : List Char) :
    Replaced Reference.span (MarkOf style (rewrite style text).names) 0 (occurrences text) text
      (rewrite style text).sql := by
  have htokens := replaced_rewriteTokens style [] 0 (tokens text)
  rwa [tokens, flatMap_text_tokensFrom, map_fst_marked] at htokens

/-- Where every mark is new, there is a name for every reference. -/
theorem names_rewriteTokens_anonymous (names : List String) (place : Nat) (ts : List Token) :
    (rewriteTokens .anonymous names ts).names =
      names ++ (occurrencesFrom place ts).map Reference.name := by
  induction ts generalizing names place with
  | nil => simp [rewriteTokens, occurrencesFrom]
  | cons t ts ih =>
    cases t with
    | verbatim c => exact ih names (place + 1)
    | reference name =>
      rw [occurrencesFrom, List.map_cons, List.append_cons]
      exact ih (names ++ [String.ofList name]) (place + 1 + name.length)

/-- The bound names are those from before and those of the references that give way. -/
theorem mem_names_rewriteTokens {style : PlaceholderStyle} {names : List String} {ts : List Token}
    {n : String} (place : Nat) (h : n ∈ (rewriteTokens style names ts).names) :
    n ∈ names ∨ n ∈ (occurrencesFrom place ts).map Reference.name := by
  induction ts generalizing names place with
  | nil => exact .inl h
  | cons t ts ih =>
    cases t with
    | verbatim c => exact ih (place + 1) h
    | reference name =>
      have hnumber : ∀ m ∈ (style.number names (String.ofList name)).1,
          m ∈ names ∨ m = String.ofList name := by
        unfold PlaceholderStyle.number
        cases style <;> grind
      rw [occurrencesFrom, List.map_cons, List.mem_cons]
      rcases ih (place + 1 + name.length) h with hn | hn
      · exact (hnumber n hn).imp_right .inl
      · exact .inr (.inr hn)

/-- Every name that is bound is one that the text refers to. -/
theorem mem_referencedNames_of_mem_rewrite {style : PlaceholderStyle} {text : List Char}
    {n : String} (h : n ∈ (rewrite style text).names) : n ∈ referencedNames text := by
  rcases mem_names_rewriteTokens 0 h with h | h
  · exact absurd h List.not_mem_nil
  · obtain ⟨r, hr, rfl⟩ := List.mem_map.1 h
    change r ∈ occurrences text at hr
    rw [occurrences_eq] at hr
    rw [referencedNames, List.mem_eraseDups]
    exact List.mem_map.2 ⟨r, (List.mem_filter.1 hr).1, rfl⟩

/-! ### The two ways agree -/

/-- **The rewriting and the search agree.** The references that the rewriting replaces are those
    that the search finds and whose `@` is code, with the same places and names; their ranges, and
    nothing else, give way to marks, whatever the style. The search finds the matches of the
    pattern. So where all of a text is code, a style that binds one value for each mark has the
    names of all references, in order and with repetitions. -/
theorem occurrences_eq_filter_references (style : PlaceholderStyle) (text : List Char) :
    references text = matchesFrom 0 text ∧
      occurrences text = (references text).filter (fun r => decide (IsCode text r.start)) ∧
      Replaced Reference.span (MarkOf style (rewrite style text).names) 0 (occurrences text) text
        (rewrite style text).sql ∧
      ((∀ place < text.length, IsCode text place) →
        (rewrite .anonymous text).names = (references text).map Reference.name) := by
  refine ⟨references_eq_matchesFrom text, occurrences_eq text, replaced_rewrite style text, ?_⟩
  intro hall
  have hnames : (rewrite .anonymous text).names = (occurrences text).map Reference.name :=
    names_rewriteTokens_anonymous [] 0 (tokens text)
  rw [hnames, occurrences_eq, List.filter_eq_self.2]
  intro r hr
  obtain ⟨-, -, hstop⟩ := (ascending_references text).of_mem (List.mem_map.2 ⟨r, hr, rfl⟩)
  simp only [Reference.span] at hstop
  exact decide_eq_true (hall r.start (by omega))

/-- A text that is all code, with a reference behind another one, a doubled `@` and a dollar sign
    that opens no tag. -/
def codeText : List Char := "é@a@b - $1 * @@c / @a".toList

/-- All of the text is code, so that its matches are the references that give way. -/
theorem occurrences_eq_filter_references_codeText :
    (∀ place < codeText.length, IsCode codeText place) ∧
      (rewrite .anonymous codeText).names = (references codeText).map Reference.name := by
  have hall : ∀ place < codeText.length, IsCode codeText place := by decide +kernel
  exact ⟨hall, (occurrences_eq_filter_references .anonymous codeText).2.2.2 hall⟩

/-- Behind the name `a` no reference begins. -/
example : (references codeText).map Reference.name = ["a", "a"] := by decide +kernel

end Sql

end QueryBook
