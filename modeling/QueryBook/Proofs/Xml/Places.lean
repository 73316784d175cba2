import QueryBook.Proofs.Xml.Passage

namespace QueryBook.Xml

/-!
# Places in a document

An event is read from the characters that make it up: what stands behind them does not count, but
for the opening bracket that ends a text. So two documents that begin alike are read alike up to a
bracket where they part.

* `ReadAlone`, `exists_raw_of_event` — the characters an event is read from.
* `Event.Moves` — how an event changes the open elements.
* `Reads` — reading comes to a place of a document; `Reads.swap`: whatever stands there.
* `Reads.ends_iff` — a document is read by reading up to a place and from there.
-/

/-! ### Where markup ends -/

section

variable {cs rest : List Char}

/-- Whether a pattern stands at the beginning shows in as many characters as it has. -/
theorem stripStart?_append_eq_none {pattern : List Char} (hlength : pattern.length ≤ cs.length)
    (h : Text.stripStart? pattern (cs ++ rest) = none) (other : List Char) :
    Text.stripStart? pattern (cs ++ other) = none := by
  refine Option.eq_none_iff_forall_ne_some.2 fun behind hbehind => ?_
  have hstands : pattern <+: cs := by
    refine List.prefix_of_prefix_length_le ⟨behind, ?_⟩ (List.prefix_append cs other) hlength
    exact (Text.stripStart?_eq_some.1 hbehind).symm
  obtain ⟨more, rfl⟩ := hstands
  rw [List.append_assoc, Text.stripStart?_eq_some.2 rfl] at h
  cases h

/-- What was found up to a pattern is found there whatever else follows. -/
theorem exists_raw_of_breakOn? {pattern before : List Char} (hpattern : pattern ≠ [])
    (h : Text.breakOn? pattern cs = some (before, rest)) : ∃ raw, raw ≠ [] ∧ cs = raw ++ rest ∧
      ∀ other, Text.breakOn? pattern (raw ++ other) = some (before, other) := by
  refine ⟨before ++ pattern, by simp [hpattern], Text.breakOn?_append h, fun other => ?_⟩
  induction before generalizing cs with
  | nil =>
    obtain ⟨p, ps, rfl⟩ := List.exists_cons_of_ne_nil hpattern
    have hstrip : Text.stripStart? (p :: ps) (p :: ps ++ other) = some other :=
      Text.stripStart?_eq_some.2 rfl
    rw [List.cons_append] at hstrip
    simp [Text.breakOn?, hstrip]
  | cons b before ih =>
    have hcs := Text.breakOn?_append h
    simp only [List.cons_append, List.append_assoc] at hcs
    subst hcs
    rw [Text.breakOn?] at h
    split at h
    · cases h
    · next hnone =>
      simp only [Option.map_eq_some_iff, Prod.mk.injEq, List.cons.injEq] at h
      obtain ⟨found, hbreak, ⟨-, hbefore⟩, hbehind⟩ := h
      rw [(Prod.ext hbefore hbehind : found = (before, rest))] at hbreak
      -- The pattern did not begin here, and would not with another rest either.
      have hother : Text.stripStart? pattern (b :: (before ++ pattern ++ other)) = none := by
        rw [← List.append_assoc, ← List.cons_append] at hnone
        exact stripStart?_append_eq_none (by simp; omega) hnone other
      rw [List.cons_append, List.cons_append, Text.breakOn?, hother, ih hbreak]
      rfl

/-- The end of a tag does not depend on what follows it. -/
theorem exists_raw_of_takeTag {quote : Option Char} {content : List Char}
    (h : takeTag quote cs = some (content, rest)) : ∃ raw, raw ≠ [] ∧ cs = raw ++ rest ∧
      ∀ other, takeTag quote (raw ++ other) = some (content, other) := by
  induction cs generalizing quote content with
  | nil => cases h
  | cons c cs ih =>
    rw [takeTag] at h
    split at h
    · next hend =>
      obtain ⟨rfl, rfl⟩ := Prod.mk.inj (Option.some.inj h)
      exact ⟨[c], List.cons_ne_nil c [], rfl, fun other => by simp [takeTag, hend]⟩
    · next hend =>
      simp only [Option.map_eq_some_iff, Prod.mk.injEq] at h
      obtain ⟨⟨inner, _⟩, htake, rfl, rfl⟩ := h
      obtain ⟨raw, -, rfl, hraw⟩ := ih htake
      refine ⟨c :: raw, List.cons_ne_nil c raw, rfl, fun other => ?_⟩
      rw [List.cons_append, takeTag, if_neg hend]
      simp only [hraw, Option.map_some]

/-- The end of nested brackets does not depend on what follows it. -/
theorem exists_raw_of_takeBalanced {depth : Nat} {content : List Char}
    (h : takeBalanced depth cs = some (content, rest)) : ∃ raw, raw ≠ [] ∧ cs = raw ++ rest ∧
      ∀ other, takeBalanced depth (raw ++ other) = some (content, other) := by
  induction cs generalizing depth content with
  | nil => cases h
  | cons c cs ih =>
    unfold takeBalanced at h
    split at h
    · next hend =>
      cases depth with
      | zero =>
        obtain ⟨rfl, rfl⟩ := Prod.mk.inj (Option.some.inj h)
        exact ⟨[c], List.cons_ne_nil c [], rfl, fun other => by simp [takeBalanced, hend]⟩
      | succ depth =>
        simp only [Option.map_eq_some_iff, Prod.mk.injEq] at h
        obtain ⟨⟨inner, _⟩, htake, rfl, rfl⟩ := h
        obtain ⟨raw, -, rfl, hraw⟩ := ih htake
        refine ⟨c :: raw, List.cons_ne_nil c raw, rfl, fun other => ?_⟩
        simp [takeBalanced, hend, hraw]
    · next hend =>
      simp only [Option.map_eq_some_iff, Prod.mk.injEq] at h
      obtain ⟨⟨inner, _⟩, htake, rfl, rfl⟩ := h
      obtain ⟨raw, -, rfl, hraw⟩ := ih htake
      refine ⟨c :: raw, List.cons_ne_nil c raw, rfl, fun other => ?_⟩
      rw [List.cons_append]
      unfold takeBalanced
      simp only [if_neg hend, hraw, Option.map_some]

end

/-! ### What an event is read from -/

/-- Elements open before an event, and those open behind it. -/
def Event.Moves (opened : List (List Char)) : Event → List (List Char) → Prop
  | .opening tag, opened' => opened' = tag.name :: opened
  | .closing name, opened' => opened = name :: opened'
  | .empty _, opened' | .text _, opened' | .cdata _, opened' | .silent, opened' => opened' = opened

/-- The characters in front of a rest are read as an event, whatever else follows them. -/
structure ReadAlone (read : List (List Char) → List Char → Step) (opened : List (List Char))
    (cs : List Char) (event : Event) (opened' : List (List Char)) (rest : List Char) : Prop where
  moves : event.Moves opened opened'
  exists_raw : ∃ raw, raw ≠ [] ∧ cs = raw ++ rest ∧
    ∀ other, read opened (raw ++ other) = .event event opened' other

section

variable {opened opened' : List (List Char)} {cs rest : List Char} {event : Event}

theorem readAlone_of_readComment (h : readComment opened cs = .event event opened' rest) :
    ReadAlone readComment opened cs event opened' rest := by
  unfold readComment at h
  split at h
  · cases h
  · next before after hbreak =>
    obtain ⟨raw, hne, hcs, hraw⟩ := exists_raw_of_breakOn? (by simp) hbreak
    -- Behind less than two characters no end would be found.
    obtain ⟨c, d, cs, rfl⟩ : ∃ c d ds, cs = c :: d :: ds := by
      match cs, hcs with
      | [], hcs => simp [hne] at hcs
      | [_], hcs => simp [hne] at hcs
      | c :: d :: ds, _ => exact ⟨c, d, ds, rfl⟩
    split at h
    · next hdash =>
      obtain ⟨rfl, rfl, rfl⟩ := Step.event.inj h
      rw [List.drop_succ_cons, List.drop_succ_cons, List.drop_zero] at hcs
      subst hcs
      have hdash' : d = '-' := by simpa using hdash
      exact ⟨rfl, c :: d :: raw, by simp, rfl, fun other => by simp [readComment, hraw, hdash']⟩
    · cases h

theorem readAlone_of_readCData (h : readCData opened cs = .event event opened' rest) :
    ReadAlone readCData opened cs event opened' rest := by
  unfold readCData at h
  split at h
  · cases h
  · next body after hbreak =>
    obtain ⟨raw, hne, hcs, hraw⟩ := exists_raw_of_breakOn? (by simp) hbreak
    obtain ⟨c, cs, rfl⟩ : ∃ c ds, cs = c :: ds := by
      match cs, hcs with
      | [], hcs => simp [hne] at hcs
      | c :: ds, _ => exact ⟨c, ds, rfl⟩
    split at h
    · next hstrip =>
      obtain ⟨rfl, rfl, rfl⟩ := Step.event.inj h
      rw [List.drop_succ_cons, List.drop_zero] at hcs
      subst hcs
      exact ⟨rfl, c :: raw, by simp, rfl, fun other => by simp [readCData, hraw, hstrip]⟩
    · cases h

theorem readAlone_of_readDoctype (h : readDoctype opened cs = .event event opened' rest) :
    ReadAlone readDoctype opened cs event opened' rest := by
  unfold readDoctype at h
  split at h
  · cases h
  · next content after htake =>
    obtain ⟨raw, hne, rfl, hraw⟩ := exists_raw_of_takeBalanced htake
    split at h
    · cases h
    · next hword =>
      split at h
      · cases h
      · next hname =>
        obtain ⟨rfl, rfl, rfl⟩ := Step.event.inj h
        exact ⟨rfl, raw, hne, rfl,
          fun other => by simp only [readDoctype, hraw, if_neg hword, if_neg hname]⟩

theorem readAlone_of_readInstruction
    (h : readInstruction opened cs = .event event opened' rest) :
    ReadAlone readInstruction opened cs event opened' rest := by
  unfold readInstruction at h
  split at h
  · cases h
  · cases h
  · next c before after hbreak =>
    obtain ⟨raw, hne, rfl, hraw⟩ := exists_raw_of_breakOn? (by simp) hbreak
    obtain ⟨rfl, rfl, rfl⟩ := Step.event.inj h
    exact ⟨rfl, raw, hne, rfl, fun other => by simp only [readInstruction, hraw]⟩

/-- What an opening tag is read as depends on its content alone. -/
theorem openTag_eq_event {content : List Char}
    (h : openTag content opened cs = .event event opened' rest) :
    event.Moves opened opened' ∧
      ∀ other, openTag content opened other = .event event opened' other := by
  unfold openTag at h ⊢
  split at h
  · next hslash =>
    obtain ⟨rfl, rfl, -⟩ := Step.event.inj h
    exact ⟨rfl, fun other => if_pos hslash⟩
  · next hslash =>
    obtain ⟨rfl, rfl, -⟩ := Step.event.inj h
    exact ⟨rfl, fun other => if_neg hslash⟩

/-- What a closing tag is read as depends on its content alone. -/
theorem closeTag_eq_event {content : List Char}
    (h : closeTag content opened cs = .event event opened' rest) :
    event.Moves opened opened' ∧
      ∀ other, closeTag content opened other = .event event opened' other := by
  unfold closeTag at h ⊢
  cases opened with
  | nil => cases h
  | cons innermost outer =>
    simp only at h ⊢
    split at h
    · next hname =>
      obtain ⟨rfl, rfl, -⟩ := Step.event.inj h
      exact ⟨by rw [Event.Moves, hname], fun other => if_pos hname⟩
    · cases h

/-- Behind its bracket markup is that of an element unless it begins with one of three
    characters. -/
theorem readMarkup_of_not_mem {c : Char} (hc : c ∉ ['!', '?', '/']) (opened : List (List Char))
    {cs content rest : List Char} (h : takeTag none (c :: cs) = some (content, rest)) :
    readMarkup opened (c :: cs) = openTag content opened rest := by
  have hne : ∀ d ∈ ['!', '?', '/'], c ≠ d := fun d hd he => hc (he ▸ hd)
  unfold readMarkup
  split
  · next he => cases he
  · next he => exact absurd (List.cons.inj he).1 (hne '!' (by decide))
  · next he => exact absurd (List.cons.inj he).1 (hne '?' (by decide))
  · next he => exact absurd (List.cons.inj he).1 (hne '/' (by decide))
  · simp only [h]

/-- Which declaration is read shows in the first character behind the exclamation mark. -/
theorem ReadAlone.declaration {read : List (List Char) → List Char → Step}
    (h : ReadAlone read opened cs event opened' rest)
    (hread : ∀ ds, ds.head? = cs.head? → readMarkup opened ('!' :: ds) = read opened ds) :
    ReadAlone readMarkup opened ('!' :: cs) event opened' rest := by
  obtain ⟨hmoves, raw, hne, rfl, hraw⟩ := h
  obtain ⟨c, raw, rfl⟩ := List.exists_cons_of_ne_nil hne
  refine ⟨hmoves, '!' :: c :: raw, by simp, rfl, fun other => ?_⟩
  rw [List.cons_append, hread (c :: raw ++ other) rfl, hraw]

/-- Markup of any sort is read alone. -/
theorem readAlone_of_readMarkup (h : readMarkup opened cs = .event event opened' rest) :
    ReadAlone readMarkup opened cs event opened' rest := by
  unfold readMarkup at h
  split at h
  · cases h
  · split at h
    · next hhead =>
      exact (readAlone_of_readComment h).declaration fun ds hds => by
        simp [readMarkup, hds, hhead]
    · next hhead =>
      exact (readAlone_of_readCData h).declaration fun ds hds => by
        simp [readMarkup, hds, hhead]
    · next hhead =>
      exact (readAlone_of_readDoctype h).declaration fun ds hds => by
        simp [readMarkup, hds, hhead]
    · next hhead =>
      exact (readAlone_of_readDoctype h).declaration fun ds hds => by
        simp [readMarkup, hds, hhead]
    · cases h
  · obtain ⟨hmoves, raw, hne, hcs, hraw⟩ := readAlone_of_readInstruction h
    obtain ⟨c, raw, rfl⟩ := List.exists_cons_of_ne_nil hne
    obtain ⟨rfl, -⟩ := List.cons.inj hcs
    exact ⟨hmoves, '?' :: raw, hne, hcs, hraw⟩
  · split at h
    · cases h
    · next content after htake =>
      obtain ⟨raw, -, rfl, hraw⟩ := exists_raw_of_takeTag htake
      obtain rfl := closeTag_rest h
      obtain ⟨hmoves, hclose⟩ := closeTag_eq_event h
      refine ⟨hmoves, '/' :: raw, List.cons_ne_nil _ _, rfl, fun other => ?_⟩
      simp only [List.cons_append, readMarkup, hraw, hclose]
  · next hbang hquestion hslash =>
    split at h
    · cases h
    · next content after htake =>
      obtain ⟨raw, hne, rfl, hraw⟩ := exists_raw_of_takeTag htake
      obtain rfl := openTag_rest h
      obtain ⟨hmoves, hopen⟩ := openTag_eq_event h
      obtain ⟨c, raw, rfl⟩ := List.exists_cons_of_ne_nil hne
      -- The tag begins with none of the marks of the branches before.
      have hc : c ∉ ['!', '?', '/'] := by
        intro hmem
        simp only [List.mem_cons, List.not_mem_nil, or_false] at hmem
        rcases hmem with rfl | rfl | rfl
        · exact hbang _ rfl
        · exact hquestion _ rfl
        · exact hslash _ rfl
      refine ⟨hmoves, c :: raw, hne, rfl, fun other => ?_⟩
      have htag : takeTag none (c :: (raw ++ other)) = some (content, other) := hraw other
      rw [List.cons_append, readMarkup_of_not_mem hc opened htag, hopen]

/-- The elements that are open behind an event follow from those before it. -/
theorem moves_of_event (h : nextEvent opened cs = .event event opened' rest) :
    event.Moves opened opened' := by
  unfold nextEvent at h
  split at h
  · cases h
  · exact (readAlone_of_readMarkup h).moves
  · obtain ⟨rfl, rfl, -⟩ := Step.event.inj h
    rfl

/-- What is read as an event is read as this event whatever follows. Only a text would go on. -/
theorem exists_raw_of_event (h : nextEvent opened cs = .event event opened' rest) :
    ∃ raw, cs = raw ++ rest ∧ ∀ other, other.head? = rest.head? →
      nextEvent opened (raw ++ other) = .event event opened' other := by
  cases cs with
  | nil => cases h
  | cons c cs =>
    by_cases hc : c = '<'
    · subst hc
      obtain ⟨-, raw, -, rfl, hraw⟩ := readAlone_of_readMarkup h
      exact ⟨'<' :: raw, rfl, fun other _ => hraw other⟩
    · rw [nextEvent_text hc] at h
      obtain ⟨rfl, rfl, rfl⟩ := Step.event.inj h
      -- A text goes to the next bracket, or to the end, and there the other rest begins too.
      refine ⟨(c :: cs).takeWhile (· != '<'), List.takeWhile_append_dropWhile.symm, ?_⟩
      intro other hother
      have hraw : ∀ d ∈ (c :: cs).takeWhile (· != '<'), (d != '<') = true :=
        fun d hd => List.mem_takeWhile_imp (p := (· != '<')) hd
      have hends : other.takeWhile (· != '<') = [] ∧ other.dropWhile (· != '<') = other := by
        cases other with
        | nil => exact ⟨rfl, rfl⟩
        | cons d other =>
          have hd := List.head?_dropWhile_not (· != '<') (c :: cs)
          rw [← hother] at hd
          simp at hd
          simp [hd]
      obtain ⟨ds, hds⟩ : ∃ ds, (c :: cs).takeWhile (· != '<') = c :: ds :=
        ⟨cs.takeWhile (· != '<'), by simp [hc]⟩
      rw [hds, List.cons_append, nextEvent_text hc, ← List.cons_append, ← hds,
        List.takeWhile_append_of_pos hraw, List.dropWhile_append_of_pos hraw, hends.1, hends.2,
        List.append_nil]

end

/-! ### Reading up to a place -/

/-- Reading comes to what is left at a place of a document, by some events. -/
inductive Reads : List (List Char) → List Char → List Event → List (List Char) → List Char → Prop
  | nil (opened : List (List Char)) (cs : List Char) : Reads opened cs [] opened cs
  | cons {opened opened' opened'' : List (List Char)} {cs rest last : List Char} {event : Event}
      {events : List Event} (h : nextEvent opened cs = .event event opened' rest)
      (hrest : Reads opened' rest events opened'' last) :
      Reads opened cs (event :: events) opened'' last

section

variable {opened opened' : List (List Char)} {cs rest : List Char} {events : List Event}

/-- What is left at a place is an end of the document. -/
theorem Reads.suffix (h : Reads opened cs events opened' rest) : rest <:+ cs := by
  induction h with
  | nil opened cs => exact List.suffix_rfl
  | cons h _ ih =>
    obtain ⟨raw, rfl, -⟩ := exists_raw_of_event h
    exact ih.trans (List.suffix_append raw _)

/-- Reading comes to a bracket whatever stands behind it. -/
theorem Reads.swap {before : List Char}
    (h : Reads opened (before ++ '<' :: cs) events opened' ('<' :: cs)) (other : List Char) :
    Reads opened (before ++ '<' :: other) events opened' ('<' :: other) := by
  generalize htext : before ++ '<' :: cs = text at h
  generalize hlast : '<' :: cs = last at h
  induction h generalizing before with
  | nil opened text =>
    obtain rfl : before = [] := List.append_left_eq_self.1 (htext.trans hlast.symm)
    exact .nil opened ('<' :: other)
  | cons h hrest ih =>
    subst hlast
    obtain ⟨raw, rfl, hraw⟩ := exists_raw_of_event h
    obtain ⟨more, hmore⟩ := hrest.suffix
    rw [← hmore, ← List.append_assoc] at htext
    obtain rfl := List.append_cancel_right htext
    rw [List.append_assoc]
    refine .cons (hraw _ ?_) (ih hmore rfl)
    rw [← hmore]
    cases more with
    | nil => rfl
    | cons c more => rfl

/-- What is left at a place is taken from the collector that is there. -/
theorem Reads.ends_iff {s t : Collector} (h : Reads opened cs events opened' rest) :
    Ends opened s cs t ↔
      ∃ s', events.foldlM Collector.take s = .ok s' ∧ Ends opened' s' rest t := by
  induction h generalizing s with
  | nil opened cs => simp [pure, Except.pure]
  | cons h _ ih =>
    rw [ends_iff_of_event h]
    simp only [ih, List.foldlM_cons]
    cases s.take _ with
    | error fault => simp [bind, Except.bind]
    | ok s' => simp [bind, Except.bind]

/-- A mark at the beginning of a document is no bracket. -/
theorem withoutMark_append (before cs : List Char) :
    withoutMark (before ++ '<' :: cs) = withoutMark before ++ '<' :: cs := by
  cases before with
  | nil => rfl
  | cons c before =>
    by_cases hc : c = '\ufeff'
    · subst hc
      rfl
    · have hmark : ∀ ds, withoutMark (c :: ds) = c :: ds := by
        intro ds
        unfold withoutMark
        split
        · next he => exact absurd (List.cons.inj he).1 hc
        · rfl
      rw [List.cons_append, hmark, hmark, List.cons_append]

/-- What is read of a document that begins as another one does up to a bracket. -/
theorem Reads.swap_withoutMark {before : List Char}
    (h : Reads opened (withoutMark (before ++ '<' :: cs)) events opened' ('<' :: cs))
    (other : List Char) :
    Reads opened (withoutMark (before ++ '<' :: other)) events opened' ('<' :: other) := by
  rw [withoutMark_append] at h ⊢
  exact h.swap other

end

/-- A document gives the definitions that are found when nothing is left and no element is open. -/
theorem parseDocument_eq_ok_iff {text : String} {definitions : List Definition} :
    parseDocument text = .ok definitions ↔
      ∃ t, Ends [] {} (withoutMark text.toList) t ∧ t.depth = 0 ∧ t.found = definitions := by
  simp only [parseDocument, readEvents, Ends]
  generalize readEventsFrom [] (withoutMark text.toList) = read
  obtain ⟨events, fault⟩ := read
  cases hevents : events.foldlM Collector.take {} with
  | error fault' => simp [bind, Except.bind]
  | ok t =>
    cases fault with
    | some fault => simp [bind, Except.bind]
    | none =>
      by_cases hdepth : t.depth = 0 <;> simp [bind, Except.bind, hdepth]

end QueryBook.Xml
