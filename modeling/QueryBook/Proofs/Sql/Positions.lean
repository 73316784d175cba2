import Mathlib.Data.List.Basic
import QueryBook.Bound
import QueryBook.Proofs.Decimal.Numeral
import QueryBook.Proofs.Sql.Occurrences

namespace QueryBook

/-!
# Positions of bound values

The references of a text that are code cut it into pieces. The rewriting keeps the pieces and writes
marks between them; each mark leads to the value of the name that it stands for.

* `PlaceholderStyle.boundNames`, `PlaceholderStyle.position` — the names that are bound, and the
  position of the value for each reference, said of all references of a text at once.
* `PlaceholderStyle.Marks` — what a driver reads as the mark of a position.
* `Sql.Cut` — a text cut at some references; `Cut.fill` puts something else in their place.
* `Sql.rewriteTokens_boundNames` — the rewriting, which numbers names while it goes on, fills a cut
  with the marks of these positions.
* `Sql.exists_cut_rewrite` — this for every text, with the values that are bound.
-/

/-! ### Names without repetitions -/

/-- In a list without repetitions every element is there once. -/
theorem nodup_eraseDups (names : List String) : names.eraseDups.Nodup := by
  induction hn : names.length using Nat.strongRecOn generalizing names with
  | ind n ih =>
    cases names with
    | nil => simp
    | cons name names =>
      have hlt : (names.filter fun m => !m == name).length < n := by
        have hle := List.length_filter_le (fun m => !m == name) names
        rw [List.length_cons] at hn
        omega
      rw [List.eraseDups_cons, List.nodup_cons, List.mem_eraseDups]
      exact ⟨by simp, ih _ hlt _ rfl⟩

/-- What comes behind leaves what came first in its place. -/
theorem eraseDups_prefix_append (names more : List String) :
    names.eraseDups <+: (names ++ more).eraseDups := by
  rw [List.eraseDups_append]
  exact List.prefix_append _ _

/-- A name that has been there before adds nothing. -/
theorem eraseDups_concat_of_mem {names : List String} {name : String} (h : name ∈ names) :
    (names ++ [name]).eraseDups = names.eraseDups := by
  rw [List.eraseDups_append]
  simp [List.removeAll, h]

/-- A new name comes behind the others. -/
theorem eraseDups_concat_of_not_mem {names : List String} {name : String} (h : name ∉ names) :
    (names ++ [name]).eraseDups = names.eraseDups ++ [name] := by
  rw [List.eraseDups_append]
  simp [List.removeAll, h, List.eraseDups_cons]

namespace PlaceholderStyle

/-- The names that are bound for the references with some names: where marks bear no number, one for
    each reference, else each name once, in the order in which they come first. -/
def boundNames (style : PlaceholderStyle) (names : List String) : List String :=
  match style with
  | anonymous => names
  | _ => names.eraseDups

/-- The position of the value for reference `i`, by its name and the names of all references. -/
def position (style : PlaceholderStyle) (names : List String) (i : Nat) (name : String) : Nat :=
  match style with
  | anonymous => i + 1
  | _ => names.eraseDups.idxOf name + 1

/-- The text is the mark of a position: `?` where marks bear no number, and else the sign of the
    style and the numeral of the position. -/
def Marks (style : PlaceholderStyle) (position : Nat) (mark : List Char) : Prop :=
  match style with
  | dollar => ∃ digits, Decimal.Denotes digits position ∧ mark = '$' :: digits
  | numbered => ∃ digits, Decimal.Denotes digits position ∧ mark = '?' :: digits
  | anonymous => mark = ['?']
  | named => ∃ digits, Decimal.Denotes digits position ∧ mark = '@' :: 'P' :: digits

/-- A position has one mark, and it is the one that is written. -/
theorem marks_iff (style : PlaceholderStyle) {position : Nat} (h : 0 < position)
    (mark : List Char) : style.Marks position mark ↔ mark = style.mark position := by
  cases style <;> simp [Marks, PlaceholderStyle.mark, Decimal.denotes_iff h]

section

variable {style : PlaceholderStyle} (h : style ≠ anonymous)
include h

/-- Where marks bear numbers each name is bound once. -/
theorem boundNames_of_ne (names : List String) : style.boundNames names = names.eraseDups := by
  cases style with
  | anonymous => exact absurd rfl h
  | _ => rfl

/-- Where marks bear numbers the position of a name is that of its first reference. -/
theorem position_of_ne (names : List String) (i : Nat) (name : String) :
    style.position names i name = names.eraseDups.idxOf name + 1 := by
  cases style with
  | anonymous => exact absurd rfl h
  | _ => rfl

/-- Where marks bear numbers a name that is known keeps its number, and a new one has the next. -/
theorem number_of_ne (names : List String) (name : String) : style.number names name =
    if name ∈ names then (names, names.idxOf name + 1)
    else (names ++ [name], names.length + 1) := by
  by_cases hmem : name ∈ names
  · obtain ⟨i, hi⟩ := Option.isSome_iff_exists.1 (List.isSome_idxOf?.2 hmem)
    have hidx : names.idxOf name = i := by rw [List.idxOf_eq_getD_idxOf?, hi, Option.getD_some]
    rw [if_pos hmem, hidx]
    cases style with
    | anonymous => exact absurd rfl h
    | _ => simp [number, hi]
  · have hnone := List.idxOf?_eq_none_iff.2 hmem
    rw [if_neg hmem]
    cases style with
    | anonymous => exact absurd rfl h
    | _ => simp [number, hnone]

end

/-- A name that follows others is numbered as if all were known from the beginning, those that
    follow it included. -/
theorem number_boundNames (style : PlaceholderStyle) (before more : List String) (name : String) :
    style.number (style.boundNames before) name =
      (style.boundNames (before ++ [name]),
        style.position (before ++ name :: more) before.length name) := by
  by_cases hstyle : style = anonymous
  · subst hstyle
    rfl
  · have hfirst : (before ++ name :: more).eraseDups.idxOf name =
        (before ++ [name]).eraseDups.idxOf name := by
      have hbegins := eraseDups_prefix_append (before ++ [name]) more
      rw [List.append_assoc, List.singleton_append] at hbegins
      exact (hbegins.idxOf_eq_of_mem (by simp [List.mem_eraseDups])).symm
    rw [number_of_ne hstyle, boundNames_of_ne hstyle, boundNames_of_ne hstyle,
      position_of_ne hstyle, hfirst]
    -- A name that came before has its number; a new one gets the next.
    by_cases hmem : name ∈ before
    · rw [if_pos (List.mem_eraseDups.2 hmem), eraseDups_concat_of_mem hmem]
    · have hmem' : name ∉ before.eraseDups := fun h => hmem (List.mem_eraseDups.1 h)
      rw [if_neg hmem', eraseDups_concat_of_not_mem hmem, List.idxOf_append_of_notMem hmem',
        List.idxOf_cons_self, Nat.add_zero]

section

variable (style : PlaceholderStyle) (names : List String)

/-- A reference has a position, and at it its name is bound. -/
theorem getElem?_boundNames {i : Nat} {name : String} (h : names[i]? = some name) :
    ∃ j, style.position names i name = j + 1 ∧ (style.boundNames names)[j]? = some name := by
  by_cases hstyle : style = anonymous
  · subst hstyle
    exact ⟨i, rfl, h⟩
  · rw [position_of_ne hstyle, boundNames_of_ne hstyle]
    have hmem : name ∈ names.eraseDups := List.mem_eraseDups.2 (List.mem_of_getElem? h)
    exact ⟨_, rfl, List.getElem?_idxOf hmem⟩

/-- Every name that is bound is bound for some reference. -/
theorem exists_position {j : Nat} (h : j < (style.boundNames names).length) :
    ∃ i name, names[i]? = some name ∧ style.position names i name = j + 1 := by
  by_cases hstyle : style = anonymous
  · subst hstyle
    exact ⟨j, names[j], List.getElem?_eq_getElem h, rfl⟩
  · rw [boundNames_of_ne hstyle] at h
    obtain ⟨i, hi⟩ := List.getElem?_of_mem (List.mem_eraseDups.1 (List.getElem_mem h))
    refine ⟨i, _, hi, ?_⟩
    rw [position_of_ne hstyle, (nodup_eraseDups names).idxOf_getElem]

end

end PlaceholderStyle

namespace Sql

/-! ### Texts that are cut at references -/

/-- A text that is cut at some references: what stands before the first one, and the name of each
    with what stands behind it. -/
structure Cut where
  first : List Char
  rest : List (String × List Char)

namespace Cut

/-- The names of the references, in order. -/
def names (cut : Cut) : List String := cut.rest.map Prod.fst

/-- The pieces with something in the place of each reference, given its number and its name. -/
def fill (cut : Cut) (f : Nat → String → List Char) : List Char :=
  cut.first ++ (cut.rest.mapIdx fun i (name, piece) => f i name ++ piece).flatten

/-- The text that is cut. -/
def text (cut : Cut) : List Char := cut.fill fun _ name => '@' :: name.toList

/-- The references among pieces that begin at a place. -/
def referencesFrom (place : Nat) : List (String × List Char) → List Reference
  | [] => []
  | (name, piece) :: rest =>
    ⟨name, place⟩ :: referencesFrom (place + 1 + name.length + piece.length) rest

/-- The references at which the text is cut, with their places in it. -/
def references (cut : Cut) : List Reference := referencesFrom cut.first.length cut.rest

/-- Tokens as a text that is cut at each reference among them. -/
def ofTokens : List Token → Cut
  | [] => ⟨[], []⟩
  | .verbatim c :: ts => ⟨c :: (ofTokens ts).first, (ofTokens ts).rest⟩
  | .reference name :: ts => ⟨[], (String.ofList name, (ofTokens ts).first) :: (ofTokens ts).rest⟩

section

variable (c : Char) (name : List Char) (ts : List Token) (f : Nat → String → List Char)

@[simp] theorem names_ofTokens_verbatim :
    (ofTokens (.verbatim c :: ts)).names = (ofTokens ts).names := rfl

/-- A reference adds its name to those of the tokens behind it. -/
@[simp] theorem names_ofTokens_reference :
    (ofTokens (.reference name :: ts)).names = String.ofList name :: (ofTokens ts).names := rfl

@[simp] theorem fill_ofTokens_verbatim :
    (ofTokens (.verbatim c :: ts)).fill f = c :: (ofTokens ts).fill f := rfl

/-- A reference is filled first, and those behind it are counted from one. -/
@[simp] theorem fill_ofTokens_reference : (ofTokens (.reference name :: ts)).fill f =
    f 0 (String.ofList name) ++ (ofTokens ts).fill fun i => f (i + 1) := by
  simp [ofTokens, fill, List.mapIdx_cons]

end

/-- The text that tokens make up is cut at the references among them. -/
theorem text_ofTokens (ts : List Token) : (ofTokens ts).text = ts.flatMap Token.text := by
  induction ts with
  | nil => rfl
  | cons t ts ih =>
    cases t with
    | verbatim c => rw [text, fill_ofTokens_verbatim, ← text, ih]; rfl
    | reference name => rw [text, fill_ofTokens_reference, ← text, ih]; simp [Token.text]

/-- The places of the references in a cut are those of the references among its tokens. -/
theorem references_ofTokens (place : Nat) (ts : List Token) :
    referencesFrom (place + (ofTokens ts).first.length) (ofTokens ts).rest =
      occurrencesFrom place ts := by
  induction ts generalizing place with
  | nil => rfl
  | cons t ts ih =>
    cases t with
    | verbatim c =>
      rw [occurrencesFrom, ← ih, ofTokens, List.length_cons]
      congr 1
      omega
    | reference name =>
      rw [occurrencesFrom, ← ih, ofTokens, List.length_nil, Nat.add_zero, referencesFrom,
        String.length_ofList]

/-- The references bear the names at which the text is cut. -/
theorem map_name_references (cut : Cut) : cut.references.map Reference.name = cut.names := by
  have hfrom : ∀ (rest : List (String × List Char)) (place : Nat),
      (referencesFrom place rest).map Reference.name = rest.map Prod.fst := by
    intro rest
    induction rest with
    | nil => exact fun place => rfl
    | cons r rest ih => exact fun place => congrArg (r.1 :: ·) (ih _)
  exact hfrom cut.rest cut.first.length

end Cut

/-! ### The rewriting -/

/-- Behind references with some names, the rewriting of tokens fills their cut with marks. -/
theorem rewriteTokens_boundNames (style : PlaceholderStyle) (before : List String)
    (ts : List Token) :
    rewriteTokens style (style.boundNames before) ts =
      ⟨(Cut.ofTokens ts).fill fun i name => style.mark
          (style.position (before ++ (Cut.ofTokens ts).names) (before.length + i) name),
        style.boundNames (before ++ (Cut.ofTokens ts).names)⟩ := by
  induction ts generalizing before with
  | nil => simp [rewriteTokens, Cut.ofTokens, Cut.fill, Cut.names]
  | cons t ts ih =>
    cases t with
    | verbatim c => simp [rewriteTokens, ih]
    | reference name =>
      have hshift : ∀ i, before.length + 1 + i = before.length + (i + 1) := by omega
      rw [rewriteTokens, PlaceholderStyle.number_boundNames style before (Cut.ofTokens ts).names]
      simp only [ih, List.length_append, List.length_cons, List.length_nil, List.append_assoc,
        List.singleton_append, Cut.names_ofTokens_reference, Cut.fill_ofTokens_reference, hshift,
        Nat.zero_add, Nat.add_zero]

/-- **The rewriting is exact.** The references in code cut a text into pieces, and the rewriting for
    a style puts marks in their place and leaves the pieces as they are. The names that are bound
    are those of the references, each once and in the order in which they come first, if marks bear
    numbers, and one for each reference otherwise. What is written for a reference is the one mark
    of its position. So every mark leads to a value, which is the value of the name that it stands
    for, and every value has a mark. -/
theorem exists_cut_rewrite (style : PlaceholderStyle) (text : List Char) (p : Parameters) :
    ∃ (cut : Cut) (marks : Nat → String → List Char), cut.text = text ∧
      cut.references = (references text).filter (fun r => decide (IsCode text r.start)) ∧
      (rewrite style text).sql = cut.fill marks ∧
      (∀ i name, cut.names[i]? = some name →
        ∀ mark, style.Marks (style.position cut.names i name) mark ↔ mark = marks i name) ∧
      (rewrite style text).names = style.boundNames cut.names ∧
      (∀ i name, cut.names[i]? = some name → ∃ j, style.position cut.names i name = j + 1 ∧
        (bindText text style p).values[j]? = some ((p.get? name).getD .null)) ∧
      ∀ j < (bindText text style p).values.length, ∃ i name, cut.names[i]? = some name ∧
        style.position cut.names i name = j + 1 := by
  -- The tokens give the cut, and the marks are the ones the rewriting puts between its pieces.
  let cut := Cut.ofTokens (tokens text)
  let marks := fun i name => style.mark (style.position cut.names i name)
  have htext : cut.text = text := by
    rw [Cut.text_ofTokens, tokens, flatMap_text_tokensFrom, map_fst_marked]
  have hreferences : cut.references = occurrences text := by
    have hfrom := Cut.references_ofTokens 0 (tokens text)
    rwa [Nat.zero_add] at hfrom
  have hrewrite : rewrite style text = ⟨cut.fill marks, style.boundNames cut.names⟩ := by
    have hnil : style.boundNames [] = [] := by cases style <;> simp [PlaceholderStyle.boundNames]
    have htokens := rewriteTokens_boundNames style [] (tokens text)
    rw [hnil, List.nil_append, List.length_nil, ← rewrite] at htokens
    simpa only [Nat.zero_add] using htokens
  have hvalues : (bindText text style p).values =
      (style.boundNames cut.names).map fun name => (p.get? name).getD .null := by
    rw [bindText, hrewrite]
    rfl
  refine ⟨cut, marks, htext, hreferences.trans (occurrences_eq text), ?_, ?_, ?_, ?_, ?_⟩
  · rw [hrewrite]
  · intro i name hname
    obtain ⟨j, hj, -⟩ := style.getElem?_boundNames cut.names hname
    exact style.marks_iff (by omega)
  · rw [hrewrite]
  · intro i name hname
    obtain ⟨j, hj, hbound⟩ := style.getElem?_boundNames cut.names hname
    refine ⟨j, hj, ?_⟩
    rw [hvalues, List.getElem?_map, hbound]
    rfl
  · intro j hj
    rw [hvalues, List.length_map] at hj
    exact style.exists_position cut.names hj

/-- A name that comes again has the mark of its position again, and a reference that is quoted has
    none. -/
theorem exists_cut_rewrite_quoted : ∃ (cut : Cut) (marks : Nat → String → List Char),
    cut.text = "@b, '@c', @a, @b".toList ∧ cut.names = ["b", "a", "b"] ∧
      cut.fill marks = "$1, '@c', $2, $1".toList ∧
      marks 0 "b" = "$1".toList ∧ marks 1 "a" = "$2".toList ∧ marks 2 "b" = "$1".toList ∧
      (bindText "@b, '@c', @a, @b".toList .dollar
        (.ofList [("a", .int 1), ("b", .text "x")])).values[1]? = some (.int 1) := by
  obtain ⟨cut, marks, htext, hreferences, hsql, hmarks, -, hvalue, -⟩ :=
    exists_cut_rewrite .dollar "@b, '@c', @a, @b".toList (.ofList [("a", .int 1), ("b", .text "x")])
  have hnames : cut.names = ["b", "a", "b"] := by
    rw [← Cut.map_name_references, hreferences, ← occurrences_eq]
    decide +kernel
  have hone : Decimal.Denotes ['1'] 1 := ⟨by simp, by decide, by decide⟩
  have htwo : Decimal.Denotes ['2'] 2 := ⟨by simp, by decide, by decide⟩
  have hwritten : (rewrite .dollar "@b, '@c', @a, @b".toList).sql = "$1, '@c', $2, $1".toList := by
    decide +kernel
  rw [hnames] at hmarks hvalue
  refine ⟨cut, marks, htext, hnames, hsql.symm.trans hwritten, ?_, ?_, ?_, ?_⟩
  · exact ((hmarks 0 "b" rfl _).1 ⟨['1'], hone, rfl⟩).symm
  · exact ((hmarks 1 "a" rfl _).1 ⟨['2'], htwo, rfl⟩).symm
  · exact ((hmarks 2 "b" rfl _).1 ⟨['1'], hone, rfl⟩).symm
  · obtain ⟨j, hj, hbound⟩ := hvalue 1 "a" rfl
    cases hj
    exact hbound

end Sql

end QueryBook
