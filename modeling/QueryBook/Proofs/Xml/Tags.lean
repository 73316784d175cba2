import QueryBook.Proofs.Xml.Spelling
import QueryBook.Xml.Markup

namespace QueryBook.Xml

/-!
# Tags as they are written

An opening tag holds a name and attributes. There may be blanks around an equals sign and at the
end, and either quote may stand around a value. However it is written, such a tag is taken whole,
and its attributes are found in it.

* `IsName`, `WrittenAttributes` — names, and the ways to write attributes.
* `WrittenAttributes.takeTag_eq` — a bracket in a value does not end the tag.
* `WrittenAttributes.attribute?_eq` — the values that are found; of two attributes of one name it
  is the first one.
-/

/-- Blanks inside markup. -/
def Blanks (cs : List Char) : Prop := ∀ c ∈ cs, isSpace c = true

/-- The characters of names. Those of XML are among them. -/
def isNameChar (c : Char) : Bool :=
  !isSpace c && !(['<', '>', '/', '=', '"', '\'', '&', '!', '?'].contains c)

/-- A name of an element or of an attribute. -/
def IsName (name : List Char) : Prop := name ≠ [] ∧ ∀ c ∈ name, isNameChar c = true

instance (cs : List Char) : Decidable (Blanks cs) := decidable_of_iff _ List.all_eq_true

instance (name : List Char) : Decidable (IsName name) :=
  decidable_of_iff (name ≠ [] ∧ name.all isNameChar = true) (and_congr .rfl List.all_eq_true)

/-- The ways to write attributes behind a name, up to the end of the tag. -/
inductive WrittenAttributes : List (List Char × List Char) → List Char → Prop
  | nil {blanks : List Char} : Blanks blanks → WrittenAttributes [] blanks
  | cons {gap key before after value raw rest : List Char} {quote : Char}
      {more : List (List Char × List Char)} :
      gap ≠ [] → Blanks gap → IsName key → Blanks before → Blanks after →
      quote = '"' ∨ quote = '\'' → Spells quote value raw → WrittenAttributes more rest →
      WrittenAttributes ((key, value) :: more)
        (gap ++ (key ++ (before ++ '=' :: (after ++ quote :: (raw ++ quote :: rest)))))

/-! ### Names and blanks -/

/-- A character of a name is no blank. -/
theorem isSpace_of_isNameChar {c : Char} (h : isNameChar c = true) : isSpace c = false := by
  simp only [isNameChar, Bool.and_eq_true, Bool.not_eq_true'] at h
  exact h.1

/-- No character with a meaning in markup is one of a name. -/
theorem ne_of_isNameChar {c d : Char} (h : isNameChar c = true)
    (hd : d ∈ ['<', '>', '/', '=', '"', '\'', '&', '!', '?']) : c ≠ d := by
  rintro rfl
  simp only [isNameChar, Bool.and_eq_true, Bool.not_eq_true'] at h
  exact absurd (List.contains_iff_mem.2 hd) (by rw [h.2]; exact Bool.false_ne_true)

/-- Blanks in front of something are dropped. -/
theorem dropWhile_isSpace_append {blanks : List Char} (h : Blanks blanks) (rest : List Char) :
    (blanks ++ rest).dropWhile isSpace = rest.dropWhile isSpace :=
  List.dropWhile_append_of_pos h

/-- Blanks end where a character stands that is none. -/
theorem dropWhile_isSpace_append_cons {blanks : List Char} (h : Blanks blanks) {c : Char}
    (hc : isSpace c = false) (rest : List Char) :
    (blanks ++ c :: rest).dropWhile isSpace = c :: rest := by
  rw [dropWhile_isSpace_append h, List.dropWhile_cons_of_neg (by simp [hc])]

/-- A blank is none of the characters with a meaning in markup. -/
theorem ne_of_isSpace {c d : Char} (h : isSpace c = true) (hd : isSpace d = false) : c ≠ d := by
  rintro rfl
  exact absurd (h.symm.trans hd) (by simp)

/-! ### Attributes -/

/-- Behind a key stands its value, between quotes. -/
theorem readAttributeValue_eq {quote : Char} {after raw : List Char} (hafter : Blanks after)
    (hquote : quote = '"' ∨ quote = '\'') (hraw : quote ∉ raw) (total : Nat) (rest : List Char) :
    readAttributeValue total (after ++ quote :: (raw ++ quote :: rest)) = .ok (raw, rest) := by
  have hspace : isSpace quote = false := by
    rcases hquote with rfl | rfl <;> decide
  have hall : ∀ c ∈ raw, (c != quote) = true := by
    intro c hc
    exact bne_iff_ne.2 fun he => hraw (he ▸ hc)
  have hcut : Text.cutAtChar? quote (raw ++ quote :: rest) = some (raw, rest) := by
    rw [Text.cutAtChar?, List.dropWhile_append_of_pos hall, List.takeWhile_append_of_pos hall]
    simp
  rw [readAttributeValue, dropWhile_isSpace_append_cons hafter hspace]
  simp only [if_pos hquote, hcut]

/-- In blanks there is no attribute. -/
theorem readAttribute?_blanks {blanks : List Char} (h : Blanks blanks) (total : Nat) :
    readAttribute? total blanks = .ok none := by
  have hnil : blanks.dropWhile isSpace = [] := by
    have hdrop := dropWhile_isSpace_append h []
    rwa [List.append_nil] at hdrop
  rw [readAttribute?, hnil]

/-- An attribute is read in whichever way it is written, and what follows is left. -/
theorem readAttribute?_eq {gap key before after value raw : List Char} {quote : Char}
    (hgap : Blanks gap) (hkey : IsName key) (hbefore : Blanks before) (hafter : Blanks after)
    (hquote : quote = '"' ∨ quote = '\'') (hraw : Spells quote value raw) (total : Nat)
    (rest : List Char) :
    readAttribute? total
        (gap ++ (key ++ (before ++ '=' :: (after ++ quote :: (raw ++ quote :: rest))))) =
      .ok (some (key, raw, rest)) := by
  obtain ⟨first, others, rfl⟩ := List.exists_cons_of_ne_nil hkey.1
  obtain ⟨hfirst, hothers⟩ := List.forall_mem_cons.1 hkey.2
  have hkeys : ∀ c ∈ others, isKeyChar c = true := by
    intro c hc
    have hname := hothers c hc
    simp [isKeyChar, isSpace_of_isNameChar hname, ne_of_isNameChar hname (d := '=') (by decide)]
  generalize hbehind : after ++ quote :: (raw ++ quote :: rest) = behind
  have hkeyed : (others ++ (before ++ '=' :: behind)).dropWhile isKeyChar =
        before ++ '=' :: behind ∧
      (others ++ (before ++ '=' :: behind)).takeWhile isKeyChar = others := by
    rw [List.dropWhile_append_of_pos hkeys, List.takeWhile_append_of_pos hkeys]
    -- The key ends at the first blank, or at the equals sign.
    cases before with
    | nil => simp [isKeyChar]
    | cons b before => simp [isKeyChar, hbefore b List.mem_cons_self]
  rw [readAttribute?, dropWhile_isSpace_append hgap, List.cons_append,
    List.dropWhile_cons_of_neg (by simp [isSpace_of_isNameChar hfirst])]
  simp only [hkeyed.1, hkeyed.2, dropWhile_isSpace_append_cons hbefore (c := '=') (by decide)]
  rw [← hbehind, readAttributeValue_eq hafter hquote (hraw.delimiter_not_mem (.inr hquote))]
  rfl

/-! ### The value of an attribute -/

/-- Where no attribute is left none is found. -/
theorem findAttribute?_of_none {total : Nat} {cs : List Char} (wanted : List Char)
    (h : readAttribute? total cs = .ok none) : findAttribute? total wanted cs = .ok none := by
  rw [findAttribute?]
  split
  · next hread => exact absurd (h.symm.trans hread) (by simp)
  · rfl
  · next hread => exact absurd (h.symm.trans hread) (by simp)

/-- The first attribute is found if it has the name, and else the search goes on behind it. -/
theorem findAttribute?_of_some {total : Nat} {key value rest cs : List Char} (wanted : List Char)
    (h : readAttribute? total cs = .ok (some (key, value, rest))) :
    findAttribute? total wanted cs =
      if key = wanted then .ok (some value) else findAttribute? total wanted rest := by
  rw [findAttribute?]
  split
  · next hread => exact absurd (h.symm.trans hread) (by simp)
  · next hread => exact absurd (h.symm.trans hread) (by simp)
  · next hread =>
    have heq := h.symm.trans hread
    simp only [Except.ok.injEq, Option.some.injEq, Prod.mk.injEq] at heq
    obtain ⟨rfl, rfl, rfl⟩ := heq
    rfl

namespace WrittenAttributes

variable {attributes : List (List Char × List Char)} {raw : List Char}

/-- The attribute that is wanted is found as it is spelled. -/
theorem findAttribute?_rel (h : WrittenAttributes attributes raw) (total : Nat)
    (wanted : List Char) :
    ∃ found, findAttribute? total wanted raw = .ok found ∧
      Option.Rel (fun spelling value => expand spelling = .ok value) found
        (attributes.lookup wanted) := by
  induction h with
  | nil hblanks =>
    exact ⟨none, findAttribute?_of_none wanted (readAttribute?_blanks hblanks total), .none⟩
  | @cons gap key before after value raw rest quote more _ hgap hkey hbefore hafter hquote hraw _
      ih =>
    rw [findAttribute?_of_some wanted
      (readAttribute?_eq hgap hkey hbefore hafter hquote hraw total rest)]
    by_cases hwanted : key = wanted
    · subst hwanted
      rw [List.lookup_cons_self]
      exact ⟨some raw, if_pos rfl, .some hraw.expand_eq⟩
    · have hlookup : ((key, value) :: more).lookup wanted = more.lookup wanted := by
        rw [List.lookup_cons, beq_eq_false_iff_ne.2 (Ne.symm hwanted)]
      rw [if_neg hwanted, hlookup]
      exact ih

end WrittenAttributes

/-! ### Where a tag ends -/

/-- Outside quotes a character is taken that neither ends the tag nor opens quotes. -/
theorem takeTag_append {cs rest content after : List Char}
    (hcs : ∀ c ∈ cs, c ≠ '>' ∧ c ≠ '"' ∧ c ≠ '\'')
    (hrest : takeTag none rest = some (content, after)) :
    takeTag none (cs ++ rest) = some (cs ++ content, after) := by
  induction cs with
  | nil => exact hrest
  | cons c cs ih =>
    obtain ⟨⟨hc, hdouble, hsingle⟩, hcs⟩ := List.forall_mem_cons.1 hcs
    simp [takeTag, hc, hdouble, hsingle, ih hcs]

/-- Inside quotes everything is taken up to the quote that closes them. -/
theorem takeTag_quoted {quote : Char} {raw rest content after : List Char} (hraw : quote ∉ raw)
    (hrest : takeTag none rest = some (content, after)) :
    takeTag (some quote) (raw ++ quote :: rest) = some (raw ++ quote :: content, after) := by
  induction raw with
  | nil => simp [takeTag, hrest]
  | cons c raw ih =>
    rw [List.mem_cons, not_or] at hraw
    simp [takeTag, hraw.1, ih hraw.2]

/-- Neither blanks nor names end a tag or open quotes. -/
theorem ne_of_isSpace_or_isNameChar {c : Char} (h : isSpace c = true ∨ isNameChar c = true) :
    c ≠ '>' ∧ c ≠ '"' ∧ c ≠ '\'' := by
  rcases h with hspace | hname
  · exact ⟨ne_of_isSpace hspace (by decide), ne_of_isSpace hspace (by decide),
      ne_of_isSpace hspace (by decide)⟩
  · exact ⟨ne_of_isNameChar hname (by decide), ne_of_isNameChar hname (by decide),
      ne_of_isNameChar hname (by decide)⟩

namespace WrittenAttributes

variable {attributes : List (List Char × List Char)} {name raw : List Char}

/-- A bracket in a value does not end the tag. -/
theorem takeTag_eq (h : WrittenAttributes attributes raw) (rest : List Char) :
    takeTag none (raw ++ '>' :: rest) = some (raw, rest) := by
  induction h with
  | @nil blanks hblanks =>
    have hend : takeTag none ('>' :: rest) = some ([], rest) := by simp [takeTag]
    have htake :=
      takeTag_append (fun c hc => ne_of_isSpace_or_isNameChar (.inl (hblanks c hc))) hend
    rwa [List.append_nil] at htake
  | @cons gap key before after value raw behind quote more _ hgap hkey hbefore hafter hquote hraw _
      ih =>
    -- An end inside the value does not count, since the value is quoted.
    have hquoted : takeTag none (quote :: (raw ++ quote :: (behind ++ '>' :: rest))) =
        some (quote :: (raw ++ quote :: behind), rest) := by
      have hinside := takeTag_quoted (hraw.delimiter_not_mem (.inr hquote)) ih
      rcases hquote with rfl | rfl
      · simp [takeTag, hinside]
      · simp [takeTag, hinside]
    have hplain : ∀ c ∈ gap ++ (key ++ (before ++ '=' :: after)),
        c ≠ '>' ∧ c ≠ '"' ∧ c ≠ '\'' := by
      intro c hc
      simp only [List.mem_append, List.mem_cons] at hc
      rcases hc with hc | hc | hc | rfl | hc
      · exact ne_of_isSpace_or_isNameChar (.inl (hgap c hc))
      · exact ne_of_isSpace_or_isNameChar (.inr (hkey.2 c hc))
      · exact ne_of_isSpace_or_isNameChar (.inl (hbefore c hc))
      · decide
      · exact ne_of_isSpace_or_isNameChar (.inl (hafter c hc))
    simpa using takeTag_append hplain hquoted

/-- No slash stands at the end of attributes, so that the tag is no empty one. -/
theorem getLast?_ne (h : WrittenAttributes attributes raw) : raw.getLast? ≠ some '/' := by
  induction h with
  | nil hblanks =>
    intro hlast
    exact absurd (hblanks '/' (List.mem_of_getLast? hlast)) (by decide)
  | @cons gap key before after value raw behind quote more _ _ _ _ _ hquote _ _ ih =>
    have hsplit : gap ++ (key ++ (before ++ '=' :: (after ++ quote :: (raw ++ quote :: behind)))) =
        (gap ++ (key ++ (before ++ '=' :: (after ++ quote :: raw)))) ++ quote :: behind := by simp
    have hne : quote ≠ '/' := by
      rcases hquote with rfl | rfl
      · decide
      · decide
    rw [hsplit, List.getLast?_append, List.getLast?_cons, Option.some_or]
    -- The last character is the quote of the last attribute, or stands behind it.
    cases hlast : behind.getLast? with
    | none => simpa using hne
    | some c =>
      rw [hlast] at ih
      exact ih

/-- A tag with a name and attributes does not end in a slash. -/
theorem getLast?_append_ne (h : WrittenAttributes attributes raw) (hname : IsName name) :
    (name ++ raw).getLast? ≠ some '/' := by
  rw [List.getLast?_append]
  cases hraw : raw.getLast? with
  | none =>
    intro hslash
    exact ne_of_isNameChar (hname.2 '/' (List.mem_of_getLast? hslash)) (by decide) rfl
  | some c =>
    have hne := h.getLast?_ne
    rw [hraw] at hne
    exact hne

/-- Attributes begin with a blank, so that the name before them ends there. -/
theorem isSpace_head? (h : WrittenAttributes attributes raw) :
    ∀ c ∈ raw.head?, isSpace c = true := by
  cases h with
  | nil hblanks => exact fun c hc => hblanks c (List.mem_of_head? hc)
  | @cons gap _ _ _ _ _ _ _ _ hgap hblanks _ _ _ _ _ _ =>
    intro c hc
    obtain ⟨first, gap, rfl⟩ := List.exists_cons_of_ne_nil hgap
    rw [List.cons_append, List.head?_cons, Option.mem_some] at hc
    exact hc ▸ hblanks first List.mem_cons_self

/-- The name of a tag ends where its attributes begin. -/
theorem name_eq (h : WrittenAttributes attributes raw) (hname : IsName name) :
    (Tag.mk (name ++ raw)).name = name := by
  have hall : ∀ c ∈ name, (!isSpace c) = true := by
    intro c hc
    rw [isSpace_of_isNameChar (hname.2 c hc), Bool.not_false]
  have hhead := h.isSpace_head?
  rw [Tag.name, List.takeWhile_append_of_pos hall]
  cases raw with
  | nil => simp
  | cons c raw => simp [hhead c rfl]

/-- The value of an attribute of a tag. -/
theorem attribute?_eq (h : WrittenAttributes attributes raw) (hname : IsName name)
    (wanted : String) :
    (Tag.mk (name ++ raw)).attribute? wanted =
      .ok ((attributes.lookup wanted.toList).map String.ofList) := by
  obtain ⟨found, hfound, hrel⟩ :=
    h.findAttribute?_rel (Text.utf8Length (name ++ raw)) wanted.toList
  rw [Tag.attribute?, h.name_eq hname]
  simp only [List.drop_left, hfound]
  generalize attributes.lookup wanted.toList = value? at hrel
  cases hrel with
  | none => rfl
  | some hexpand => simp only [hexpand, Option.map_some]

end WrittenAttributes

/-! ### Tags -/

/-- No markup but an element's begins with a character of a name. -/
theorem readMarkup_of_isNameChar {c : Char} (hc : isNameChar c = true)
    (opened : List (List Char)) {cs content rest : List Char}
    (h : takeTag none (c :: cs) = some (content, rest)) :
    readMarkup opened (c :: cs) = openTag content opened rest := by
  unfold readMarkup
  split
  · next he => exact absurd he (by simp)
  · next he => exact absurd (List.cons.inj he).1 (ne_of_isNameChar hc (by decide))
  · next he => exact absurd (List.cons.inj he).1 (ne_of_isNameChar hc (by decide))
  · next he => exact absurd (List.cons.inj he).1 (ne_of_isNameChar hc (by decide))
  · simp only [h]

/-- Blanks behind the name in a closing tag do not count. -/
theorem closingName_append {name blanks : List Char} (hne : name ≠ [])
    (hname : ∀ c ∈ name, isSpace c = false) (hblanks : Blanks blanks) :
    closingName (name ++ blanks) = name := by
  obtain ⟨cs, c, hlast⟩ : ∃ cs c, name = cs ++ [c] :=
    ⟨_, _, (List.dropLast_concat_getLast hne).symm⟩
  have hc : isSpace c = false := hname c (by simp [hlast])
  have hreverse : ((name ++ blanks).reverse).dropWhile isSpace = name.reverse := by
    rw [List.reverse_append, hlast, List.reverse_append]
    exact dropWhile_isSpace_append_cons (fun d hd => hblanks d (List.mem_reverse.1 hd)) hc _
  rw [closingName, if_neg, hreverse, List.reverse_reverse]
  simp [hlast, hc]

section

variable {name : List Char} (hname : IsName name) (opened : List (List Char))
include hname

/-- An opening tag, as it is written, opens its element. -/
theorem nextEvent_opening {attributes : List (List Char × List Char)} {raw : List Char}
    (h : WrittenAttributes attributes raw) (rest : List Char) :
    nextEvent opened ('<' :: (name ++ (raw ++ '>' :: rest))) =
      .event (.opening ⟨name ++ raw⟩) (name :: opened) rest := by
  have hplain : ∀ c ∈ name, c ≠ '>' ∧ c ≠ '"' ∧ c ≠ '\'' :=
    fun c hc => ne_of_isSpace_or_isNameChar (.inr (hname.2 c hc))
  have htake := takeTag_append hplain (h.takeTag_eq rest)
  have hopen : openTag (name ++ raw) opened rest =
      .event (.opening ⟨name ++ raw⟩) (name :: opened) rest := by
    rw [openTag, if_neg (h.getLast?_append_ne hname), h.name_eq hname]
  rw [← hopen]
  obtain ⟨c, cs, rfl⟩ := List.exists_cons_of_ne_nil hname.1
  exact readMarkup_of_isNameChar (hname.2 c List.mem_cons_self) opened htake

/-- The closing tag of the innermost open element closes it. -/
theorem nextEvent_closing {blanks : List Char} (hblanks : Blanks blanks) (rest : List Char) :
    nextEvent (name :: opened) ('<' :: '/' :: (name ++ (blanks ++ '>' :: rest))) =
      .event (.closing name) opened rest := by
  have htake : takeTag none (name ++ (blanks ++ '>' :: rest)) = some (name ++ blanks, rest) :=
    takeTag_append (fun c hc => ne_of_isSpace_or_isNameChar (.inr (hname.2 c hc)))
      ((WrittenAttributes.nil hblanks).takeTag_eq rest)
  have hclosing : closingName (name ++ blanks) = name :=
    closingName_append hname.1 (fun c hc => isSpace_of_isNameChar (hname.2 c hc)) hblanks
  simp only [nextEvent, readMarkup, htake, closeTag, hclosing, if_true]

end

end QueryBook.Xml
