import Mathlib.Data.List.TakeWhile
import QueryBook.Proofs.Xml.Tree

namespace QueryBook.Xml

/-!
# Passing over what is written

A collector passes over a part of a document when, whatever comes behind that part, reading goes on
from another collector. A text is no event of its own where more text follows, so that a part is
always taken together with what may come.

* `Ends`, `Passes` — what is left is read without a fault; a part leads from a collector to another.
* `Spells.passes`, `Node.Written.passes_of_not_element` — texts, comments and instructions.
* `Tag.Shows` — what a collector learns of an element from its tag.
* `Element.exists_passes` — an element, from what its tags and its content do.
* `NodesWritten.exists_passes` — a row of nodes, from what each of them does.
-/

/-- From a collector on, what is left of a document is read without a fault, and another collector
    is there at the end. -/
def Ends (opened : List (List Char)) (s : Collector) (cs : List Char) (t : Collector) : Prop :=
  (readEventsFrom opened cs).fault = none ∧
    (readEventsFrom opened cs).events.foldlM Collector.take s = .ok t

/-- A part of a document takes a collector to another one, whatever follows. -/
def Passes (opened : List (List Char)) (s : Collector) (raw : List Char) (s' : Collector) : Prop :=
  ∀ rest t, Ends opened s' rest t → Ends opened s (raw ++ rest) t

section

variable {opened opened' : List (List Char)} {s s' s'' t : Collector} {cs raw more rest : List Char}
  {event : Event}

/-- Where nothing is left the collector stays as it is. -/
theorem ends_nil (opened : List (List Char)) (s : Collector) : Ends opened s [] s := by
  have hread : readEventsFrom opened [] = ⟨[], none⟩ := by
    rw [readEventsFrom]
    rfl
  rw [Ends, hread]
  exact ⟨rfl, rfl⟩

/-- An event is taken, and then what is left behind it. -/
theorem ends_iff_of_event (h : nextEvent opened cs = .event event opened' rest) :
    Ends opened s cs t ↔ ∃ s', s.take event = .ok s' ∧ Ends opened' s' rest t := by
  have hread : readEventsFrom opened cs =
      ⟨event :: (readEventsFrom opened' rest).events, (readEventsFrom opened' rest).fault⟩ := by
    rw [readEventsFrom]
    split
    · next he => exact Step.noConfusion (h.symm.trans he)
    · next he => exact Step.noConfusion (h.symm.trans he)
    · next he =>
      obtain ⟨rfl, rfl, rfl⟩ := Step.event.inj (h.symm.trans he)
      rfl
  simp only [Ends, hread, List.foldlM_cons]
  cases s.take event with
  | error fault => simp [bind, Except.bind]
  | ok s' => simp [bind, Except.bind]

theorem Passes.nil (opened : List (List Char)) (s : Collector) : Passes opened s [] s :=
  fun _ _ h => h

/-- Parts that follow each other are passed one behind the other. -/
theorem Passes.append (h : Passes opened s raw s') (hmore : Passes opened s' more s'') :
    Passes opened s (raw ++ more) s'' := by
  intro rest t ht
  rw [List.append_assoc]
  exact h _ _ (hmore _ _ ht)

/-- What is one event, whatever follows, is passed over by taking it. -/
theorem Passes.of_event (h : ∀ rest, nextEvent opened (raw ++ rest) = .event event opened rest)
    (htake : s.take event = .ok s') : Passes opened s raw s' :=
  fun rest _ ht => (ends_iff_of_event (h rest)).2 ⟨s', htake, ht⟩

end

/-! ### Texts -/

namespace Collector

variable (s : Collector)

/-- Text that belongs to nothing is not gathered. -/
theorem takeText_of_target_eq_none {s : Collector} (h : s.target = none) (chars : List Char) :
    s.takeText chars = s := by
  rw [takeText, h]

@[simp] theorem takeText_nil : s.takeText [] = s := by
  cases htarget : s.target with
  | none => exact takeText_of_target_eq_none htarget []
  | some target =>
    rw [takeText, htarget]
    cases target <;> simp [append]

@[simp] theorem takeText_target (chars : List Char) : (s.takeText chars).target = s.target := by
  cases htarget : s.target with
  | none => rw [takeText_of_target_eq_none htarget, htarget]
  | some target => cases target <;> simp [takeText, htarget, append]

/-- Two texts in a row are gathered like one. -/
theorem takeText_takeText (chars others : List Char) :
    (s.takeText chars).takeText others = s.takeText (chars ++ others) := by
  cases htarget : s.target with
  | none => simp [takeText_of_target_eq_none htarget]
  | some target => cases target <;> simp [takeText, htarget, append, Function.comp_def]

/-- A text that is spelled may stand in front of the text of another event. -/
theorem take_text_append {s s' : Collector} {delimiter : Char} {chars raw more : List Char}
    (h : Spells delimiter chars raw) (hmore : (s.takeText chars).take (.text more) = .ok s') :
    s.take (.text (raw ++ more)) = .ok s' := by
  simp only [take, takeText_target] at hmore ⊢
  by_cases htarget : s.target.isNone
  · rw [takeText_of_target_eq_none (Option.isNone_iff_eq_none.1 htarget)] at hmore
    rw [if_pos htarget] at hmore ⊢
    exact hmore
  · rw [if_neg htarget] at hmore ⊢
    cases hexpand : expand more with
    | error fault => simp [hexpand] at hmore
    | ok others =>
      rw [h.expand_append hexpand]
      rw [hexpand] at hmore
      simp only [takeText_takeText] at hmore ⊢
      exact hmore

end Collector

section

variable {opened : List (List Char)} {s t : Collector} {rest : List Char}

/-- Text goes on to the next markup. -/
theorem nextEvent_text {c : Char} (hc : c ≠ '<') (opened : List (List Char)) (cs : List Char) :
    nextEvent opened (c :: cs) = .event (.text ((c :: cs).takeWhile (· != '<'))) opened
      ((c :: cs).dropWhile (· != '<')) := by
  unfold nextEvent
  split
  · next he => exact absurd he (by simp)
  · next he => exact absurd (List.cons.inj he).1 hc
  · rfl

/-- What is left begins with a text, which may be empty. -/
theorem Ends.exists_text (h : Ends opened s rest t) :
    ∃ s', s.take (.text (rest.takeWhile (· != '<'))) = .ok s' ∧
      Ends opened s' (rest.dropWhile (· != '<')) t := by
  have hempty : s.take (.text []) = .ok s := by
    have hexpand : expand [] = .ok [] := rfl
    by_cases htarget : s.target.isNone
    · rw [Collector.take, if_pos htarget]
    · rw [Collector.take, if_neg htarget, hexpand]
      simp
  cases rest with
  | nil => exact ⟨s, hempty, h⟩
  | cons c rest =>
    by_cases hc : c = '<'
    · subst hc
      exact ⟨s, by simpa using hempty, by simpa using h⟩
    · exact (ends_iff_of_event (nextEvent_text hc opened rest)).1 h

/-- A text is passed over together with the text that may follow it. -/
theorem Spells.passes {chars raw : List Char} (h : Spells '<' chars raw)
    (opened : List (List Char)) (s : Collector) : Passes opened s raw (s.takeText chars) := by
  intro rest t ht
  cases raw with
  | nil =>
    cases h
    simpa using ht
  | cons c raw =>
    have hraw : ∀ d ∈ c :: raw, (d != '<') = true := by
      intro d hd
      exact bne_iff_ne.2 fun he => h.delimiter_not_mem (.inl rfl) (he ▸ hd)
    have hevent := nextEvent_text (bne_iff_ne.1 (hraw c List.mem_cons_self)) opened (raw ++ rest)
    rw [← List.cons_append, List.takeWhile_append_of_pos hraw,
      List.dropWhile_append_of_pos hraw] at hevent
    obtain ⟨s', htake, ht⟩ := ht.exists_text
    exact (ends_iff_of_event hevent).2 ⟨s', Collector.take_text_append h htake, ht⟩

end

/-! ### Other markup -/

section

variable (opened : List (List Char)) {chars : List Char}

/-- A section of characters is read up to its first end. -/
theorem nextEvent_cdata (h : ¬ [']', ']', '>'] <:+: chars) (rest : List Char) :
    nextEvent opened ("<![CDATA[".toList ++ (chars ++ [']', ']', '>']) ++ rest) =
      .event (.cdata chars) opened rest := by
  have hchars := Text.breakOn?_of_not_infix [']', ']'] '>' (by decide) h rest
  simp only [List.cons_append, List.nil_append] at hchars
  -- No bracket of the opening is part of the end.
  have hbreak : Text.breakOn? [']', ']', '>']
      ("CDATA[".toList ++ (chars ++ ']' :: ']' :: '>' :: rest)) =
        some ("CDATA[".toList ++ chars, rest) := by
    simp [Text.breakOn?, Text.stripStart?, hchars]
  have hstrip : Text.stripStart? ['C', 'D', 'A', 'T', 'A', '['] ("CDATA[".toList ++ chars) =
      some chars := Text.stripStart?_eq_some.2 rfl
  have hread : readCData opened ('[' :: ("CDATA[".toList ++ (chars ++ ']' :: ']' :: '>' :: rest))) =
      .event (.cdata chars) opened rest := by
    simp only [readCData, List.drop_succ_cons, List.drop_zero, hbreak, hstrip]
  simpa [nextEvent, readMarkup] using hread

/-- A comment is read up to its first end and says nothing. -/
theorem nextEvent_comment (h : ¬ ['-', '-', '>'] <:+: chars) (rest : List Char) :
    nextEvent opened ("<!--".toList ++ (chars ++ ['-', '-', '>']) ++ rest) =
      .event .silent opened rest := by
  have hbreak := Text.breakOn?_of_not_infix ['-', '-'] '>' (by decide) h rest
  simp only [List.cons_append, List.nil_append] at hbreak
  simp [nextEvent, readMarkup, readComment, hbreak]

/-- An instruction is read up to its first end and says nothing. -/
theorem nextEvent_instruction (h : ¬ ['?', '>'] <:+: '?' :: chars) (rest : List Char) :
    nextEvent opened ('<' :: '?' :: (chars ++ ['?', '>']) ++ rest) =
      .event .silent opened rest := by
  have hbreak := Text.breakOn?_of_not_infix ['?'] '>' (by decide) h rest
  simp only [List.cons_append, List.nil_append] at hbreak
  simp [nextEvent, readMarkup, readInstruction, hbreak]

/-- A node that is no element is passed over with the text it holds. -/
theorem Node.Written.passes_of_not_element {node : Node} {raw : List Char} (h : node.Written raw)
    (hnode : node.element? = none) (s : Collector) :
    Passes opened s raw (s.takeText node.chars) := by
  cases h with
  | element _ _ _ _ => exact absurd hnode (by simp [Node.element?])
  | text hspells => exact hspells.passes opened s
  | cdata hchars => exact .of_event (nextEvent_cdata opened hchars) rfl
  | comment hchars =>
    refine .of_event (nextEvent_comment opened hchars) ?_
    rw [Node.chars, Collector.takeText_nil]
    rfl
  | instruction hchars =>
    refine .of_event (nextEvent_instruction opened hchars) ?_
    rw [Node.chars, Collector.takeText_nil]
    rfl

end

/-! ### Tags of elements -/

/-- A tag from which the name and the attributes of an element are read. -/
structure Tag.Shows (tag : Tag) (e : Element) : Prop where
  name : tag.name = e.name
  values : ∀ key, tag.attribute? key = .ok (e.attribute? key)

/-- The local name of a tag depends on its name only. -/
theorem localName_eq_localPart (tag : Tag) : tag.localName = localPart tag.name := by
  simp only [Tag.localName, localPart, Text.cutAtChar?]
  cases hdrop : tag.name.dropWhile (· != ':') with
  | nil =>
    have hcolon : ':' ∉ tag.name := fun hmem =>
      absurd (List.dropWhile_eq_nil_iff.1 hdrop ':' hmem) (by decide)
    rw [if_neg hcolon]
  | cons c rest =>
    have hcolon : ':' ∈ tag.name := by
      by_contra hmem
      have hnil : tag.name.dropWhile (· != ':') = [] :=
        List.dropWhile_eq_nil_iff.2 fun d hd => bne_iff_ne.2 fun he => hmem (he ▸ hd)
      exact List.cons_ne_nil c rest (hdrop.symm.trans hnil)
    rw [if_pos hcolon, List.tail_cons]

namespace Tag.Shows

variable {tag : Tag} {e : Element}

/-- The local name of a tag is that of its element. -/
theorem localName_eq (h : tag.Shows e) : tag.localName = localPart e.name := by
  rw [localName_eq_localPart, h.name]

/-- The name of an entry is read from the tag of its element. -/
theorem entryName?_eq (h : tag.Shows e) : entryName? tag = .ok e.entryName? := by
  rw [entryName?, h.values]
  rfl

/-- The definition of an element is known from its tag, but for the query text. -/
theorem definitionOf_eq {name : String} {d : Definition} (h : tag.Shows e)
    (hd : e.definition? name = some d) : definitionOf name tag = .ok { d with sql := "" } := by
  obtain ⟨dialect, hdialect, rfl⟩ := Option.map_eq_some_iff.1 hd
  obtain ⟨word, hword, hparse⟩ := Option.bind_eq_some_iff.1 hdialect
  simp [definitionOf, h.values, hword, hparse, bind, Except.bind]

end Tag.Shows

/-- Only proper names are written. -/
theorem Element.isName {e : Element} {raw : List Char} (h : e.node.Written raw) :
    IsName e.name := by
  cases h with
  | element hname _ _ _ => exact hname

/-- A closing tag holds a name only. -/
theorem localName_mk {name : List Char} (h : IsName name) :
    (Tag.mk name).localName = localPart name := by
  have hnil : WrittenAttributes [] [] := .nil (by decide)
  have hname := hnil.name_eq h
  rw [List.append_nil] at hname
  rw [localName_eq_localPart, hname]

/-! ### Elements -/

/-- An element is passed over in three parts: its opening tag, its content and its closing tag. -/
theorem Element.exists_passes {e : Element} {raw : List Char} (h : e.node.Written raw)
    (opened : List (List Char)) {s s₁ : Collector} {Gathered : Collector → Prop}
    (hopen : ∀ tag : Tag, tag.Shows e → s.takeOpening tag = .ok s₁)
    (hcontent : ∀ inner, NodesWritten e.content inner →
      ∃ s₂, Passes (e.name :: opened) s₁ inner s₂ ∧ Gathered s₂) :
    ∃ s₂, Passes opened s raw (s₂.takeClosing e.name) ∧ Gathered s₂ := by
  cases h with
  | @element name tag inner blanks attributes content hname htag hinner hblanks =>
    obtain ⟨s₂, hinside, hs₂⟩ := hcontent inner hinner
    refine ⟨s₂, ?_, hs₂⟩
    intro rest t ht
    have hclose : Ends (e.name :: opened) s₂
        ('<' :: '/' :: (e.name ++ (blanks ++ '>' :: rest))) t :=
      (ends_iff_of_event (nextEvent_closing hname opened hblanks rest)).2 ⟨_, rfl, ht⟩
    have hopening := (ends_iff_of_event (nextEvent_opening hname opened htag _)).2
      ⟨s₁, hopen _ ⟨htag.name_eq hname, htag.attribute?_eq hname⟩, hinside _ t hclose⟩
    simpa using hopening

/-- An element is passed by its opening tag, its content and its closing tag, in whichever way it is
    written. -/
theorem Element.passes {e : Element} {raw : List Char} (h : e.node.Written raw)
    (opened : List (List Char)) {s s₁ s₂ : Collector}
    (hopen : ∀ tag : Tag, tag.Shows e → s.takeOpening tag = .ok s₁)
    (hcontent : ∀ inner, NodesWritten e.content inner → Passes (e.name :: opened) s₁ inner s₂) :
    Passes opened s raw (s₂.takeClosing e.name) := by
  obtain ⟨_, hpass, rfl⟩ := Element.exists_passes h opened hopen
    fun inner hinner => ⟨s₂, hcontent inner hinner, rfl⟩
  exact hpass

/-! ### Rows of nodes -/

/-- If each node leads from what is gathered of the nodes before it to what is gathered with it, so
    does a row of them. -/
theorem NodesWritten.exists_passes {nodes : List Node} {raw : List Char}
    (h : NodesWritten nodes raw) (opened : List (List Char))
    (Gathered : List Node → Collector → Prop)
    (hstep : ∀ before s, Gathered before s → ∀ node ∈ nodes, ∀ raw, node.Written raw →
      ∃ s', Passes opened s raw s' ∧ Gathered (before ++ [node]) s')
    {before : List Node} {s : Collector} (hs : Gathered before s) :
    ∃ s', Passes opened s raw s' ∧ Gathered (before ++ nodes) s' := by
  induction nodes generalizing before s raw with
  | nil =>
    cases h
    exact ⟨s, .nil opened s, by rwa [List.append_nil]⟩
  | cons node nodes ih =>
    cases h with
    | cons hnode hnodes =>
      obtain ⟨s₁, hpass, hs₁⟩ := hstep before s hs node List.mem_cons_self _ hnode
      obtain ⟨s₂, hpasses, hs₂⟩ := ih hnodes
        (fun before s hs node hmem => hstep before s hs node (List.mem_cons_of_mem _ hmem)) hs₁
      refine ⟨s₂, hpass.append hpasses, ?_⟩
      rwa [List.append_assoc, List.singleton_append] at hs₂

/-- An element is passed over by what each node of its content does. -/
theorem Element.exists_passes_content {e : Element} {raw : List Char} (h : e.node.Written raw)
    (opened : List (List Char)) {s s₁ : Collector} (Gathered : List Node → Collector → Prop)
    (hopen : ∀ tag : Tag, tag.Shows e → s.takeOpening tag = .ok s₁) (hs₁ : Gathered [] s₁)
    (hstep : ∀ before s, Gathered before s → ∀ node ∈ e.content, ∀ raw, node.Written raw →
      ∃ s', Passes (e.name :: opened) s raw s' ∧ Gathered (before ++ [node]) s') :
    ∃ s₂, Passes opened s raw (s₂.takeClosing e.name) ∧ Gathered e.content s₂ :=
  Element.exists_passes h opened hopen fun _ hinner =>
    hinner.exists_passes (e.name :: opened) Gathered hstep hs₁

end QueryBook.Xml
