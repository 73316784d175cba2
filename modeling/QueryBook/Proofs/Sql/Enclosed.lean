import Mathlib.Data.List.Basic
import QueryBook.Proofs.Sql.Regions

namespace QueryBook.Sql

/-!
# Enclosed regions

A region with both its delimiters is read without regard to what stands before it, and does not
change how the text behind it is read.

* `doubled`, `delimiter`, `Closing` — what stands between quotes, around a tagged body, and behind
  the opening of a comment.
* `Enclosed` — a region with its delimiters, in front of a text.
* `maskFrom_append_of_code` — a text that ends in code is read alike in front of all that no dash or
  slash waits for, unless a dollar sign at its end waits for the rest of a tag.
* `Enclosed.maskFrom_append` — an enclosed region is read up to its last character.
* `codeMask_append_enclosed` — a text before an enclosed region, the region, and a text behind it.
-/

/-! ### Regions with their delimiters -/

/-- A text in which every quote is written twice. -/
def doubled (quote : Char) (body : List Char) : List Char :=
  body.flatMap fun c => if c = quote then [c, c] else [c]

/-- What opens and closes a tagged body. -/
def delimiter (tag : List Char) : List Char := '$' :: (tag ++ ['$'])

/-- A text that closes so many open comments, the outermost one with its last character. Openings
    and closings are read from left to right, none of them over another. -/
inductive Closing : Nat → List Char → Prop
  | done : Closing 0 []
  | opens {depth : Nat} {cs : List Char} (h : Closing (depth + 2) cs) :
      Closing (depth + 1) ('/' :: '*' :: cs)
  | closes {depth : Nat} {cs : List Char} (h : Closing depth cs) :
      Closing (depth + 1) ('*' :: '/' :: cs)
  | other {depth : Nat} {c : Char} {cs : List Char} (hopens : ¬ (c = '/' ∧ cs.head? = some '*'))
      (hcloses : ¬ (c = '*' ∧ cs.head? = some '/')) (h : Closing (depth + 1) cs) :
      Closing (depth + 1) (c :: cs)

/-- A region with its delimiters, in front of a text. -/
inductive Enclosed (v : List Char) : List Char → Prop
  /-- Another quote behind the last one would be read with it. -/
  | quoted {quote : Char} (hquote : quote = '\'' ∨ quote = '"') (hv : v.head? ≠ some quote)
      (body : List Char) : Enclosed v (quote :: (doubled quote body ++ [quote]))
  /-- The tag is closed where it is found first. -/
  | tagged {tag body : List Char} (htag : ∀ c ∈ tag, isNameChar c = true)
      (hlast : ∀ before after, body ++ delimiter tag = before ++ delimiter tag ++ after →
        after = []) :
      Enclosed v (delimiter tag ++ (body ++ delimiter tag))
  | blockComment {body : List Char} (h : Closing 1 body) : Enclosed v ('/' :: '*' :: body)

/-- A text has a dollar sign with nothing but characters of a name behind it. -/
def EndsInTag (u : List Char) : Prop :=
  ∃ name, (∀ c ∈ name, isNameChar c = true) ∧ '$' :: name <:+ u

/-! ### What stands before a region -/

section

variable {r : Region} {skip : Nat} {c : Char} {u v w cs tag : List Char}

theorem maskFrom_read :
    maskFrom r 0 (c :: cs) =
      (r.read c cs).isCode :: maskFrom (r.read c cs).next (r.read c cs).skip cs := rfl

theorem maskFrom_skip : maskFrom r (skip + 1) (c :: cs) = false :: maskFrom r skip cs := rfl

/-- What belongs to a character before is not code. -/
theorem maskFrom_length_append (u v : List Char) :
    maskFrom r u.length (u ++ v) = List.replicate u.length false ++ maskFrom r 0 v := by
  induction u with
  | nil => rfl
  | cons c u ih =>
    rw [List.cons_append, List.length_cons, maskFrom_skip, ih, List.replicate_succ,
      List.cons_append]

/-- A text in front does not undo the end in a tag. -/
theorem EndsInTag.cons (h : EndsInTag u) (c : Char) : EndsInTag (c :: u) := by
  obtain ⟨name, hname, hsuffix⟩ := h
  exact ⟨name, hname, hsuffix.trans (List.suffix_cons c u)⟩

/-- Whether a tag begins is told by the text up to its first character that is none of a name. -/
theorem openingTag?_append (h : ∃ c ∈ u, isNameChar c = false) (w : List Char) :
    openingTag? (u ++ w) = openingTag? u := by
  induction u with
  | nil => simp at h
  | cons c u ih =>
    by_cases hc : isNameChar c = true
    · have hu : ∃ d ∈ u, isNameChar d = false := by simpa [hc] using h
      rw [List.cons_append, openingTag?_cons_of_isNameChar hc, openingTag?_cons_of_isNameChar hc,
        ih hu]
    · rw [Bool.not_eq_true] at hc
      rw [List.cons_append, openingTag?_cons_of_not hc, openingTag?_cons_of_not hc]

/-- What is left of a tagged body that is too short for the closing tag does not close it. -/
theorem regionAfter_tagged (h : u.length ≤ tag.length) :
    regionAfter (.tagged tag) 0 u = .tagged tag := by
  induction u with
  | nil => rfl
  | cons c u ih =>
    have hread : (Region.tagged tag).read c u = ⟨false, .tagged tag, 0⟩ := by
      rw [Region.read, if_neg]
      rintro ⟨-, hprefix⟩
      have hle := (List.isPrefixOf_iff_prefix.1 hprefix).length_le
      simp only [List.length_append, List.length_cons, List.length_nil] at hle h
      omega
    rw [regionAfter_read, hread, ih (by simp only [List.length_cons] at h; omega)]

/-- A character in front of a text that leads to code is read as in front of more than this text,
    unless it is a last quote and the next one is read with it. -/
theorem Region.read_append (c : Char)
    (hcode : regionAfter (r.read c u).next (r.read c u).skip u = .code)
    (htag : ¬ EndsInTag (c :: u))
    (hdash : w.head? ≠ some '-') (hstar : w.head? ≠ some '*') :
    r.read c (u ++ w) = r.read c u ∨ u = [] ∧ r = .quoted c ∧ w.head? = some c := by
  have hhead : u ≠ [] → (u ++ w).head? = u.head? := by
    intro hu
    cases u with
    | nil => exact absurd rfl hu
    | cons d u => rfl
  cases r with
  | code =>
    have hdash' : (u ++ w).head? = some '-' ↔ u.head? = some '-' := by
      cases u <;> simp [hdash]
    have hstar' : (u ++ w).head? = some '*' ↔ u.head? = some '*' := by
      cases u <;> simp [hstar]
    have htag' : c = '$' → openingTag? (u ++ w) = openingTag? u := by
      intro hc
      -- A dollar sign does not wait for the rest of a tag here.
      refine openingTag?_append ?_ w
      by_contra hall
      refine htag ⟨u, fun d hd => ?_, hc ▸ List.suffix_rfl⟩
      by_contra hname
      exact hall ⟨d, hd, by simpa using hname⟩
    left
    simp only [Region.read, Region.readCode, hdash', hstar']
    by_cases hc : c = '$'
    · rw [htag' hc]
    · rw [if_neg hc, if_neg hc]
  | quoted quote =>
    by_cases hu : u = []
    · subst hu
      by_cases hquote : c = quote ∧ w.head? = some quote
      · exact .inr ⟨rfl, by rw [hquote.1], by rw [hquote.2, hquote.1]⟩
      · left
        by_cases hc : c = quote
        · have hw : w.head? ≠ some quote := fun hw => hquote ⟨hc, hw⟩
          simp [Region.read, hc, hw]
        · simp [Region.read, hc]
    · left
      simp only [Region.read, hhead hu]
  | lineComment => exact .inl rfl
  | blockComment depth =>
    by_cases hu : u = []
    · -- On its own the character does not close the comment.
      subst hu
      simp [Region.read, regionAfter] at hcode
    · left
      simp only [Region.read, hhead hu]
  | tagged tag =>
    left
    by_cases hlen : u.length ≤ tag.length
    · have hshort : ¬ ((tag ++ ['$']).isPrefixOf u = true) := by
        intro hprefix
        have hle := (List.isPrefixOf_iff_prefix.1 hprefix).length_le
        simp only [List.length_append, List.length_cons, List.length_nil] at hle
        omega
      simp only [Region.read, hshort, and_false, if_false, Bool.false_eq_true] at hcode
      rw [regionAfter_tagged hlen] at hcode
      cases hcode
    · have hprefix : (tag ++ ['$']).isPrefixOf (u ++ w) = (tag ++ ['$']).isPrefixOf u := by
        rw [Bool.eq_iff_iff, List.isPrefixOf_iff_prefix, List.isPrefixOf_iff_prefix]
        refine ⟨fun h => ?_, fun h => h.trans (List.prefix_append u w)⟩
        refine List.prefix_of_prefix_length_le h (List.prefix_append u w) ?_
        simp only [List.length_append, List.length_cons, List.length_nil]
        omega
      simp only [Region.read, hprefix]

/-- A text that leads to code is read alike in front of all that no dash or slash waits for, unless
    a dollar sign at its end waits for the rest of a tag. A quote may be read with the one that
    ends the text; then it stands as if it had opened a region. -/
theorem maskFrom_append_of_code (hskip : skip ≤ u.length) (hcode : regionAfter r skip u = .code)
    (hr : r.Valid) (htag : ¬ EndsInTag u) (hdash : w.head? ≠ some '-')
    (hstar : w.head? ≠ some '*') :
    maskFrom r skip (u ++ w) = maskFrom r skip u ++ maskFrom .code 0 w := by
  induction u generalizing r skip with
  | nil =>
    obtain rfl : skip = 0 := Nat.le_zero.1 hskip
    obtain rfl : r = .code := hcode
    rfl
  | cons c u ih =>
    have htag' : ¬ EndsInTag u := fun h => htag (h.cons c)
    cases skip with
    | succ skip =>
      rw [List.cons_append, maskFrom_skip, maskFrom_skip,
        ih (Nat.le_of_succ_le_succ hskip) hcode hr htag', List.cons_append]
    | zero =>
      rw [regionAfter_read] at hcode
      rw [List.cons_append, maskFrom_read, maskFrom_read]
      -- Only a quote at the very end is read otherwise, as doubled by the quote behind it.
      rcases Region.read_append c hcode htag hdash hstar with hread | ⟨rfl, rfl, hw⟩
      · rw [hread, ih (r.skip_read_le c u) hcode (hr.next_read c u) htag', List.cons_append]
      · cases w with
        | nil => simp at hw
        | cons d w =>
          obtain rfl : d = c := by simpa using hw
          have hquote : d = '\'' ∨ d = '"' := hr
          simp [Region.read, Region.readCode, maskFrom, hquote]

end

/-! ### A region -/

section

variable {v cs tag body : List Char} {quote : Char} {depth : Nat}

/-- A text with its quotes doubled is read up to the quote behind it. -/
theorem maskFrom_doubled (hv : v.head? ≠ some quote) (body : List Char) :
    maskFrom (.quoted quote) 0 (doubled quote body ++ quote :: v) =
      List.replicate ((doubled quote body).length + 1) false ++ maskFrom .code 0 v := by
  induction body with
  | nil => simp [doubled, maskFrom, Region.read, hv]
  | cons c body ih =>
    -- A quote is written twice in the body, and the reader takes both at once.
    by_cases hc : c = quote
    · have hdoubled : doubled quote (c :: body) = quote :: quote :: doubled quote body := by
        simp [doubled, hc]
      have hread : ∀ rest, (Region.quoted quote).read quote (quote :: rest) =
          ⟨false, .quoted quote, 1⟩ := by
        intro rest
        simp [Region.read]
      rw [hdoubled, List.cons_append, List.cons_append, maskFrom_read, hread, maskFrom_skip, ih]
      simp [List.replicate_succ]
    · have hdoubled : doubled quote (c :: body) = c :: doubled quote body := by
        simp [doubled, hc]
      have hread : ∀ rest, (Region.quoted quote).read c rest = ⟨false, .quoted quote, 0⟩ := by
        intro rest
        simp [Region.read, hc]
      rw [hdoubled, List.cons_append, maskFrom_read, hread, ih]
      simp [List.replicate_succ]

/-- A tagged body is read up to the first tag that closes it. -/
theorem maskFrom_tagged
    (hlast : ∀ before after, body ++ delimiter tag = before ++ delimiter tag ++ after →
      after = []) :
    maskFrom (.tagged tag) 0 (body ++ (delimiter tag ++ v)) =
      List.replicate (body ++ delimiter tag).length false ++ maskFrom .code 0 v := by
  induction body with
  | nil =>
    have hread : (Region.tagged tag).read '$' (tag ++ ['$'] ++ v) =
        ⟨false, .code, tag.length + 1⟩ := by
      rw [Region.read, if_pos ⟨rfl, List.isPrefixOf_iff_prefix.2 (List.prefix_append _ v)⟩]
    have hlen : tag.length + 1 = (tag ++ ['$']).length := by simp
    rw [List.nil_append, List.nil_append, delimiter, List.cons_append, maskFrom_read, hread, hlen,
      maskFrom_length_append, List.length_cons, List.replicate_succ, List.cons_append]
  | cons c body ih =>
    have hread : (Region.tagged tag).read c (body ++ (delimiter tag ++ v)) =
        ⟨false, .tagged tag, 0⟩ := by
      rw [Region.read, if_neg]
      rintro ⟨rfl, hprefix⟩
      -- A tag that closes the body here would not be the last one.
      have hwhole : delimiter tag <+: '$' :: (body ++ (delimiter tag ++ v)) :=
        (List.prefix_cons_inj '$').2 (List.isPrefixOf_iff_prefix.1 hprefix)
      have hpart : '$' :: (body ++ delimiter tag) <+: '$' :: (body ++ (delimiter tag ++ v)) :=
        ⟨v, by simp⟩
      have hfits : delimiter tag <+: '$' :: (body ++ delimiter tag) := by
        refine List.prefix_of_prefix_length_le hwhole hpart ?_
        simp only [List.length_append, List.length_cons]
        omega
      obtain ⟨after, hafter⟩ := hfits
      obtain rfl : after = [] := hlast [] after hafter.symm
      have hlen := congrArg List.length hafter
      simp only [List.append_nil, List.length_cons, List.length_append] at hlen
      omega
    have hlast' : ∀ before after, body ++ delimiter tag = before ++ delimiter tag ++ after →
        after = [] := by
      intro before after h
      exact hlast (c :: before) after (by rw [List.cons_append, h]; rfl)
    rw [List.cons_append, maskFrom_read, hread, ih hlast']
    simp [List.replicate_succ]

/-- The region in which so many comments are open. -/
def Region.comments : Nat → Region
  | 0 => code
  | depth + 1 => blockComment (depth + 1)

/-- A text that closes comments has characters. -/
theorem Closing.ne_nil (h : Closing (depth + 1) cs) : cs ≠ [] := by
  cases h <;> simp

/-- A text that closes the open comments is read up to its last character. -/
theorem Closing.maskFrom_append (h : Closing depth cs) (v : List Char) :
    maskFrom (.comments depth) 0 (cs ++ v) =
      List.replicate cs.length false ++ maskFrom .code 0 v := by
  induction h with
  | done => rfl
  | @opens depth cs h ih =>
    have hread : ∀ rest, (Region.comments (depth + 1)).read '/' ('*' :: rest) =
        ⟨false, .comments (depth + 2), 1⟩ := by
      intro rest
      simp [Region.comments, Region.read]
    rw [List.cons_append, List.cons_append, maskFrom_read, hread, maskFrom_skip, ih]
    simp [List.replicate_succ]
  | @closes depth cs h ih =>
    have hread : ∀ rest, (Region.comments (depth + 1)).read '*' ('/' :: rest) =
        ⟨false, .comments depth, 1⟩ := by
      intro rest
      cases depth <;> simp [Region.comments, Region.read]
    rw [List.cons_append, List.cons_append, maskFrom_read, hread, maskFrom_skip, ih]
    simp [List.replicate_succ]
  | @other depth c cs hopens hcloses h ih =>
    -- The comment is still open, so the look ahead does not leave its text.
    have hhead : (cs ++ v).head? = cs.head? := by
      cases cs with
      | nil => exact absurd rfl h.ne_nil
      | cons d cs => rfl
    have hread : (Region.comments (depth + 1)).read c (cs ++ v) =
        ⟨false, .comments (depth + 1), 0⟩ := by
      simp [Region.comments, Region.read, hhead, hopens, hcloses]
    rw [List.cons_append, maskFrom_read, hread, ih]
    simp [List.replicate_succ]

/-- An enclosed region is read up to its last character, and nothing in it is code. -/
theorem Enclosed.maskFrom_append {region : List Char} (h : Enclosed v region) :
    maskFrom .code 0 (region ++ v) =
      List.replicate region.length false ++ maskFrom .code 0 v := by
  cases h with
  | @quoted quote hquote hv body =>
    have hread : ∀ rest, Region.code.read quote rest = ⟨false, .quoted quote, 0⟩ := by
      intro rest
      rw [Region.read, Region.readCode, if_pos hquote]
    rw [List.cons_append, maskFrom_read, hread, List.append_assoc, List.singleton_append,
      maskFrom_doubled hv]
    simp [List.replicate_succ]
  | @tagged tag body htag hlast =>
    -- The tag goes to the next dollar sign, since no character of it is one.
    have hopening : openingTag? (tag ++ '$' :: (body ++ (delimiter tag ++ v))) = some tag := by
      rw [openingTag?, List.takeWhile_append_of_pos htag, List.dropWhile_append_of_pos htag]
      simp [isNameChar]
    have hread : Region.code.read '$' (tag ++ '$' :: (body ++ (delimiter tag ++ v))) =
        ⟨false, .tagged tag, tag.length + 1⟩ := by
      simp [Region.read, Region.readCode, hopening]
    have hlen : tag.length + 1 = (tag ++ ['$']).length := by simp
    have htext : delimiter tag ++ (body ++ delimiter tag) ++ v =
        '$' :: (tag ++ '$' :: (body ++ (delimiter tag ++ v))) := by
      simp [delimiter]
    have hskip : tag ++ '$' :: (body ++ (delimiter tag ++ v)) =
        tag ++ ['$'] ++ (body ++ (delimiter tag ++ v)) := by simp
    rw [htext, maskFrom_read, hread, hlen, hskip, maskFrom_length_append, maskFrom_tagged hlast]
    simp only [delimiter, List.length_cons, List.length_append, List.length_nil,
      ← List.append_assoc, List.replicate_append_replicate, ← List.cons_append,
      ← List.replicate_succ]
    congr 2
    omega
  | @blockComment body h =>
    have hread : ∀ rest, Region.code.read '/' ('*' :: rest) = ⟨false, .comments 1, 1⟩ := by
      intro rest
      simp [Region.comments, Region.read, Region.readCode]
    rw [List.cons_append, List.cons_append, maskFrom_read, hread, maskFrom_skip,
      h.maskFrom_append]
    simp [List.replicate_succ]

/-- No dash and no slash waits for the first character of an enclosed region. -/
theorem Enclosed.head?_ne {region : List Char} (h : Enclosed v region) :
    (region ++ v).head? ≠ some '-' ∧ (region ++ v).head? ≠ some '*' := by
  cases h with
  | quoted hquote hv body => rcases hquote with rfl | rfl <;> simp
  | tagged htag hlast => simp [delimiter]
  | blockComment h => simp

/-- **Enclosed regions are opaque and harmless.** Behind a text that leads to code, and does not end
    in the beginning of a tag, no character of an enclosed region is code; the text before it and
    the text behind it are read as each of them is on its own. A dash or a slash at the end of the
    text before does no harm, nor does a quote that is read with the first one of the region. -/
theorem codeMask_append_enclosed {u region : List Char} (hcode : regionAfter .code 0 u = .code)
    (htag : ¬ EndsInTag u) (h : Enclosed v region) :
    codeMask (u ++ region ++ v) =
      codeMask u ++ List.replicate region.length false ++ codeMask v := by
  obtain ⟨hdash, hstar⟩ := h.head?_ne
  have hbefore : maskFrom .code 0 (u ++ (region ++ v)) =
      maskFrom .code 0 u ++ maskFrom .code 0 (region ++ v) :=
    maskFrom_append_of_code (Nat.zero_le _) hcode Region.valid_code htag hdash hstar
  rw [List.append_assoc, codeMask, hbefore, h.maskFrom_append, ← List.append_assoc]
  rfl

end

/-- Behind a quoted text another one, with a quote and a reference in it, is read as a part of the
    first one, and is opaque still. -/
theorem codeMask_append_enclosed_quotes :
    regionAfter .code 0 "x - 'a'".toList = .code ∧ ¬ EndsInTag "x - 'a'".toList ∧
      Enclosed " @b".toList "'it''s @a'".toList ∧
      codeMask ("x - 'a'".toList ++ "'it''s @a'".toList ++ " @b".toList) =
        codeMask "x - 'a'".toList ++ List.replicate 10 false ++ codeMask " @b".toList := by
  have hcode : regionAfter .code 0 "x - 'a'".toList = .code := by decide
  have htag : ¬ EndsInTag "x - 'a'".toList := by
    rintro ⟨name, -, hsuffix⟩
    have hmem : '$' ∈ "x - 'a'".toList := hsuffix.subset List.mem_cons_self
    exact absurd hmem (by decide)
  have hregion : Enclosed " @b".toList "'it''s @a'".toList :=
    .quoted (.inl rfl) (by decide) "it's @a".toList
  exact ⟨hcode, htag, hregion, codeMask_append_enclosed hcode htag hregion⟩

/-- A comment in a comment closes no more than itself, and a tag no other tag. -/
example : codeMask "/*/**/;*/;$a$ $b$ $a$;".toList =
    List.replicate 9 false ++ [true] ++ List.replicate 11 false ++ [true] := by decide

end QueryBook.Sql
