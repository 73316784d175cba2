import QueryBook.Proofs.Xml.Reach

namespace QueryBook.Xml

/-!
# Empty tags and pairs of tags

An element without content can be written as an empty tag or as an opening tag that is closed at
once. Collectors take both for the same, but for a `SqlCommand` of a definition: as a pair it has a
text, the empty one, which counts instead of the text around it; as an empty tag it does not count.

* `Tag.Plain`, `Tag.emptyText`, `Tag.pairText` — tags that can be written both ways, and the ways.
* `Tag.emptyIn`, `Tag.pairIn` — a document around an element without content, written both ways.
* `Collector.TakesCommand`, `Collector.takePair_of_not_takesCommand` — what the two ways do at one
  place.
* `parseDocument_pairIn_eq_iff` — when two such documents give the same definitions.
-/

/-! ### Two ways to write an element -/

/-- A tag that can be written as an empty one and as an opening one, with a closing tag: it has a
    name, its quotes are closed, also within the name, and it does not end in a slash. -/
structure Tag.Plain (tag : Tag) : Prop where
  begins : ∃ c ∈ tag.name.head?, c ∉ ['!', '?', '/']
  closed : takeTag none (tag.content ++ ['>']) = some (tag.content, [])
  name_closed : takeTag none (tag.name ++ ['>']) = some (tag.name, [])
  slash : tag.content.getLast? ≠ some '/'

/-- A closed part of a tag is passed over, and what follows is read. -/
theorem takeTag_append_of_closed {quote : Option Char} {cs : List Char}
    (h : takeTag quote (cs ++ ['>']) = some (cs, [])) (rest : List Char) :
    takeTag quote (cs ++ rest) =
      (takeTag none rest).map fun (content, after) => (cs ++ content, after) := by
  induction cs generalizing quote with
  | nil =>
    cases quote with
    | none => simp
    | some c => simp [takeTag] at h
  | cons c cs ih =>
    rw [List.cons_append, takeTag] at h
    split at h
    · cases h
    · next hend =>
      simp only [Option.map_eq_some_iff, Prod.mk.injEq, List.cons.injEq, true_and] at h
      obtain ⟨found, htake, hcontent, hafter⟩ := h
      rw [(Prod.ext hcontent hafter : found = (cs, []))] at htake
      rw [List.cons_append, takeTag, if_neg hend]
      simp only [ih htake, Option.map_map]
      rfl

namespace Tag

/-- An element without content as an empty tag. -/
def emptyText (tag : Tag) : List Char := '<' :: (tag.content ++ ['/', '>'])

/-- An element without content as an opening tag and a closing one, with blanks at its end. -/
def pairText (tag : Tag) (blanks : List Char) : List Char :=
  '<' :: (tag.content ++ '>' :: '<' :: '/' :: (tag.name ++ (blanks ++ ['>'])))

namespace Plain

variable {tag : Tag} (h : tag.Plain) (opened : List (List Char)) (rest : List Char)
include h

/-- The name of a plain tag begins with no character of other markup. -/
theorem exists_name_cons : ∃ c cs, c ∉ ['!', '?', '/'] ∧ tag.name = c :: cs := by
  obtain ⟨c, hc, hplain⟩ := h.begins
  obtain ⟨cs, hname⟩ := List.head?_eq_some_iff.1 hc
  exact ⟨c, cs, hplain, hname⟩

/-- The content of a plain tag begins with no character of other markup. -/
theorem exists_content_cons : ∃ c cs, c ∉ ['!', '?', '/'] ∧ tag.content = c :: cs := by
  obtain ⟨c, cs, hplain, hname⟩ := h.exists_name_cons
  obtain ⟨more, hmore⟩ := List.takeWhile_prefix (l := tag.content) (!isSpace ·)
  refine ⟨c, cs ++ more, hplain, ?_⟩
  rw [← hmore, ← List.cons_append, ← hname]
  rfl

/-- Markup that begins with a plain tag is read as an opening or an empty one. -/
theorem readMarkup_eq {content after : List Char}
    (htake : takeTag none (tag.content ++ rest) = some (content, after)) :
    readMarkup opened (tag.content ++ rest) = openTag content opened after := by
  obtain ⟨c, cs, hplain, hcontent⟩ := h.exists_content_cons
  rw [hcontent, List.cons_append] at htake ⊢
  exact readMarkup_of_not_mem hplain opened htake

/-- An empty tag is read as one event, and no element is opened. -/
theorem nextEvent_emptyText :
    nextEvent opened (tag.emptyText ++ rest) = .event (.empty tag) opened rest := by
  have htake : takeTag none (tag.content ++ '/' :: '>' :: rest) =
      some (tag.content ++ ['/'], rest) := by
    rw [takeTag_append_of_closed h.closed]
    rfl
  have hread : nextEvent opened (tag.emptyText ++ rest) =
      readMarkup opened (tag.content ++ '/' :: '>' :: rest) := by
    simp [emptyText, nextEvent]
  rw [hread, h.readMarkup_eq opened _ htake, openTag, if_pos (by simp), List.dropLast_concat]

/-- Of a pair of tags the first one is read, and its element is open. -/
theorem nextEvent_pairText (blanks : List Char) :
    nextEvent opened (tag.pairText blanks ++ rest) = .event (.opening tag) (tag.name :: opened)
      ('<' :: '/' :: (tag.name ++ (blanks ++ '>' :: rest))) := by
  have htake : takeTag none
      (tag.content ++ '>' :: '<' :: '/' :: (tag.name ++ (blanks ++ '>' :: rest))) =
        some (tag.content, '<' :: '/' :: (tag.name ++ (blanks ++ '>' :: rest))) := by
    rw [takeTag_append_of_closed h.closed]
    simp [takeTag]
  have hread : nextEvent opened (tag.pairText blanks ++ rest) = readMarkup opened
      (tag.content ++ '>' :: '<' :: '/' :: (tag.name ++ (blanks ++ '>' :: rest))) := by
    simp [pairText, nextEvent]
  rw [hread, h.readMarkup_eq opened _ htake, openTag, if_neg h.slash]

/-- A closing tag, blanks and all, closes the innermost element. -/
theorem nextEvent_closing {blanks : List Char} (hblanks : Blanks blanks) :
    nextEvent (tag.name :: opened) ('<' :: '/' :: (tag.name ++ (blanks ++ '>' :: rest))) =
      .event (.closing tag.name) opened rest := by
  obtain ⟨c, cs, -, hname⟩ := h.exists_name_cons
  have htake : takeTag none (tag.name ++ (blanks ++ '>' :: rest)) =
      some (tag.name ++ blanks, rest) := by
    rw [takeTag_append_of_closed h.name_closed, (WrittenAttributes.nil hblanks).takeTag_eq]
    rfl
  have hspaces : ∀ c ∈ tag.name, isSpace c = false := fun c hc => by
    simpa using List.mem_takeWhile_imp hc
  have hclosing : closingName (tag.name ++ blanks) = tag.name :=
    closingName_append (by simp [hname]) hspaces hblanks
  simp only [nextEvent, readMarkup, htake, closeTag, hclosing, if_true]

end Plain

end Tag

/-- Every tag that is written with a name and attributes can be written both ways. -/
theorem WrittenAttributes.plain {attributes : List (List Char × List Char)} {name raw : List Char}
    (h : WrittenAttributes attributes raw) (hname : IsName name) :
    (Tag.mk (name ++ raw)).Plain := by
  have hplain : ∀ c ∈ name, c ≠ '>' ∧ c ≠ '"' ∧ c ≠ '\'' :=
    fun c hc => ne_of_isSpace_or_isNameChar (.inr (hname.2 c hc))
  obtain ⟨c, cs, hcs⟩ := List.exists_cons_of_ne_nil hname.1
  have hc : isNameChar c = true := hname.2 c (hcs ▸ List.mem_cons_self)
  constructor
  · rw [h.name_eq hname, hcs]
    refine ⟨c, rfl, fun hmem => ?_⟩
    simp only [List.mem_cons, List.not_mem_nil, or_false] at hmem
    rcases hmem with rfl | rfl | rfl
    · exact ne_of_isNameChar hc (by decide) rfl
    · exact ne_of_isNameChar hc (by decide) rfl
    · exact ne_of_isNameChar hc (by decide) rfl
  · rw [List.append_assoc]
    exact takeTag_append hplain (h.takeTag_eq [])
  · rw [h.name_eq hname]
    have hname := takeTag_append hplain (rfl : takeTag none ['>'] = some ([], []))
    rwa [List.append_nil] at hname
  · exact h.getLast?_append_ne hname

/-! ### What collectors make of them -/

/-- A tag gives no query text. -/
theorem blank_of_definitionOf {name : String} {tag : Tag} {d : Definition}
    (h : definitionOf name tag = .ok d) : d.blank = d := by
  simp only [definitionOf, bind, Except.bind] at h
  cases htype : tag.attribute? "type" with
  | error fault => simp [htype] at h
  | ok word? =>
    rw [htype] at h
    cases word? with
    | none => cases h
    | some word =>
      cases hdialect : Dialect.parse? word with
      | none => simp [hdialect] at h
      | some dialect =>
        simp only [hdialect] at h
        split at h
        · cases h
        · split at h
          · cases h
          · split at h
            · cases h
            · cases h
              rfl

namespace Collector

/-- The tag stands for the command of the definition that is open. -/
def TakesCommand (s : Collector) (tag : Tag) : Prop :=
  s.depth = 3 ∧ s.target = some .definition ∧ tag.localName = commandName

instance (s : Collector) (tag : Tag) : Decidable (s.TakesCommand tag) :=
  inferInstanceAs (Decidable (_ ∧ _))

variable {s : Collector} {opened : List (List Char)} {tag : Tag}

/-- An empty tag of a command is passed over. -/
theorem takeEmpty_of_takesCommand (h : s.TakesCommand tag) : s.takeEmpty tag = .ok s := by
  have hskips : s.Skips tag (.ok s) :=
    .other (by rw [h.1]; decide) fun hdepth => absurd (h.1.symm.trans hdepth) (by decide)
  exact hskips.takeEmpty_eq

/-- A command without content has a text if it is written as a pair of tags. -/
theorem takePair_of_takesCommand (h : s.TakesCommand tag) (name : List Char) :
    (s.takeOpening tag).map (·.takeClosing name) = .ok { s with commandText := some [] } := by
  obtain ⟨hdepth, htarget, hname⟩ := h
  rw [Opens.takeOpening_eq (.command hdepth htarget hname)]
  have hcloses : ({ s with depth := 4, commandText := some [], target := some .command } :
      Collector).Closes name _ := .command rfl rfl
  refine congrArg Except.ok (hcloses.takeClosing_eq.trans ?_)
  rw [← hdepth, ← htarget]

/-- Any other element without content is taken for the same both ways. -/
theorem takePair_of_not_takesCommand (hs : s.Fits opened) (h : ¬ s.TakesCommand tag) :
    ((s.takeOpening tag).map (·.takeClosing tag.name)).map settled =
      (s.takeEmpty tag).map settled := by
  have hdepth' := hs.depth
  have hopens := s.opens_takeOpening tag
  generalize s.takeOpening tag = r at hopens
  -- By what the tag is for. What opens is closed at once, so that nothing is gathered for it.
  cases hopens with
  | entry hdepth =>
    have hskips : s.Skips tag _ := .entry hdepth
    have hentry := hs.entry_eq_none (by omega)
    have hcloses : ∀ e : Option Entry, ({ s with depth := 2, entry := e } :
        Collector).Closes tag.name _ := fun e => .entry rfl
    rw [hskips.takeEmpty_eq]
    cases entryName? tag with
    | error fault => rfl
    | ok name? =>
      have hnone : ((name?.map fun name => (⟨name, none⟩ : Entry)).bind
          Entry.definition).toList = [] := by
        cases name? <;> rfl
      simp only [Except.map, (hcloses _).takeClosing_eq, hnone, List.append_nil]
      rw [← hdepth, ← hentry]
  | @definition e hdepth hentry hname =>
    have hskips : s.Skips tag _ := .definition hdepth hentry hname
    have htarget := hs.target_eq_none (by omega)
    have hcloses : ∀ d : Definition, ({ s with
        depth := 3, entry := some { e with definition := some d }, definitionText := [],
        commandText := none, target := some .definition } : Collector).Closes tag.name _ :=
      fun d => .definition rfl rfl ((localName_mk_name tag).trans hname)
    rw [hskips.takeEmpty_eq]
    cases hd : definitionOf e.name tag with
    | error fault => rfl
    | ok d =>
      have hcommand := hs.commandText htarget
      simp only [Except.map, (hcloses _).takeClosing_eq, closeDefinition, settled, htarget]
      simp only [hdepth, hcommand, if_true, Option.map_some, Option.getD_none]
      exact congrArg (fun d => Except.ok { s with
        depth := 2, entry := some { e with definition := some d }, target := none,
        definitionText := [], commandText := none }) (blank_of_definitionOf hd)
  | command hdepth htarget hname => exact absurd ⟨hdepth, htarget, hname⟩ h
  | other hentry hdefinition hcommand =>
    have hskips : s.Skips tag _ := .other hentry hdefinition
    have hcloses : ({ s with depth := s.depth + 1 } : Collector).Closes tag.name _ :=
      .other (fun he => hentry (Nat.succ.inj he))
        (fun he hsome => absurd (hs.target_eq_none (by simp only at he; omega)) (by
          rintro hnone
          simp [hnone] at hsome))
        fun he hcommand => by
          have := hs.command hcommand
          simp only at he
          omega
    rw [hskips.takeEmpty_eq]
    exact congrArg (fun t => Except.ok (settled t)) hcloses.takeClosing_eq

end Collector

/-! ### Documents -/

/-- From a collector on, what is left of a document gives definitions. -/
def Gives (opened : List (List Char)) (s : Collector) (cs : List Char)
    (definitions : List Definition) : Prop :=
  ∃ t, Ends opened s cs t ∧ t.depth = 0 ∧ t.found = definitions

section

variable {opened : List (List Char)} {s s' : Collector} {tag : Tag} {after : List Char}
  {definitions : List Definition}

/-- What is left of a document gives one list of definitions. -/
theorem Gives.unique {others : List Definition} (h : Gives opened s after definitions)
    (h' : Gives opened s after others) : definitions = others := by
  obtain ⟨t, ⟨-, ht⟩, -, rfl⟩ := h
  obtain ⟨t', ⟨-, ht'⟩, -, rfl⟩ := h'
  rw [Except.ok.inj (ht.symm.trans ht')]

/-- Definitions are given from the collectors that reading comes to. -/
theorem gives_iff_of_ends {opened' : List (List Char)} {cs rest : List Char}
    {comesTo : Collector → Prop}
    (h : ∀ t, Ends opened s cs t ↔ ∃ s', comesTo s' ∧ Ends opened' s' rest t) :
    Gives opened s cs definitions ↔ ∃ s', comesTo s' ∧ Gives opened' s' rest definitions := by
  simp only [Gives, h]
  constructor
  · rintro ⟨t, ⟨s', hcomes, hends⟩, ht⟩
    exact ⟨s', hcomes, t, hends, ht⟩
  · rintro ⟨s', hcomes, t, hends, ht⟩
    exact ⟨t, ⟨s', hcomes, hends⟩, ht⟩

/-- Definitions are those that are given from a place that reading comes to. -/
theorem parseDocument_eq_ok_iff_of_reads {text : String} {cs : List Char} {events : List Event}
    (h : Reads [] (withoutMark text.toList) events opened cs) :
    parseDocument text = .ok definitions ↔
      ∃ s, events.foldlM Collector.take {} = .ok s ∧ Gives opened s cs definitions :=
  parseDocument_eq_ok_iff.trans (gives_iff_of_ends fun _ => h.ends_iff)

/-- Text that is left of a closed definition makes no difference to what is found. -/
theorem gives_of_settled_eq (h : s.settled = s'.settled) (hs : Gives opened s after definitions) :
    Gives opened s' after definitions := by
  obtain ⟨t, ⟨hfault, htake⟩, hdepth, hfound⟩ := hs
  have hsame := Collector.foldlM_eq_of_settled_eq h (readEventsFrom opened after).events
  rw [htake] at hsame
  obtain ⟨t', ht', hsettled⟩ := exists_of_map_eq_ok hsame.symm
  refine ⟨t', ⟨hfault, ht'⟩, ?_, ?_⟩
  · rw [← t'.settled_depth, hsettled, t.settled_depth, hdepth]
  · rw [← t'.settled_found, hsettled, t.settled_found, hfound]

/-- What is left behind an element, if it is written as an empty tag. -/
theorem gives_emptyText_iff (htag : tag.Plain) :
    Gives opened s (tag.emptyText ++ after) definitions ↔
      ∃ s', s.takeEmpty tag = .ok s' ∧ Gives opened s' after definitions :=
  gives_iff_of_ends fun _ => ends_iff_of_event (htag.nextEvent_emptyText opened after)

/-- What is left behind an element, if it is written as a pair of tags. -/
theorem gives_pairText_iff (htag : tag.Plain) {blanks : List Char} (hblanks : Blanks blanks) :
    Gives opened s (tag.pairText blanks ++ after) definitions ↔
      ∃ s', (s.takeOpening tag).map (·.takeClosing tag.name) = .ok s' ∧
        Gives opened s' after definitions := by
  refine gives_iff_of_ends fun t => ?_
  rw [ends_iff_of_event (htag.nextEvent_pairText opened after blanks)]
  simp only [ends_iff_of_event (htag.nextEvent_closing opened after hblanks), Collector.take]
  cases s.takeOpening tag with
  | error fault => simp [Except.map]
  | ok s₁ => simp [Except.map]

/-- What an element without content makes blank at its place, if it is written as a pair of tags: the
    definition whose command it is, unless another command or definition counts instead. -/
def Collector.MakesBlank (s : Collector) (tag : Tag) (later : List Event) : Prop :=
  s.TakesCommand tag ∧ Reach.definition.after s.depth later = .found

instance (s : Collector) (tag : Tag) (later : List Event) : Decidable (s.MakesBlank tag later) :=
  inferInstanceAs (Decidable (_ ∧ _))

/-- At the end of a document only what was found is blank. -/
theorem gives_commandText_iff (hs : s.Fits opened) (h : s.TakesCommand tag) :
    Gives opened { s with commandText := some [] } after definitions ↔
      ∃ others, Gives opened s after others ∧ definitions =
        if s.MakesBlank tag (readEventsFrom opened after).events then
          others.modify s.found.length Definition.blank
        else others := by
  -- The command stands in the definition that is open, so this is what differs at first.
  have hmakes : s.MakesBlank tag (readEventsFrom opened after).events ↔
      Reach.definition.after s.depth (readEventsFrom opened after).events = .found :=
    and_iff_right h
  have hfits : Reach.definition.Fits s.found.length s := ⟨h.2.1, rfl⟩
  have hrun := (Reach.differs_foldlM hs hfits (nested_readEventsFrom opened after)).1
  have hblank : ({ s with commandText := some [] } : Collector) =
      Reach.definition.blank s.found.length s := rfl
  simp only [hmakes, Gives, Ends]
  generalize Reach.definition.after s.depth (readEventsFrom opened after).events = reach at hrun
  rw [hblank, hrun]
  constructor
  · rintro ⟨t', ⟨hfault, htake⟩, hdepth, rfl⟩
    obtain ⟨t, ht, rfl⟩ := exists_of_map_eq_ok htake
    exact ⟨t.found, ⟨t, ⟨hfault, ht⟩, (reach.blank_depth _ t).symm.trans hdepth, rfl⟩,
      reach.blank_found _ t⟩
  · rintro ⟨others, ⟨t, ⟨hfault, htake⟩, hdepth, rfl⟩, rfl⟩
    refine ⟨reach.blank s.found.length t, ⟨hfault, ?_⟩, (reach.blank_depth _ t).trans hdepth,
      reach.blank_found _ t⟩
    rw [htake]
    rfl

/-- What two documents give that differ only in how an element without content is written. -/
theorem gives_pairText_iff_emptyText (hs : s.Fits opened) (htag : tag.Plain) {blanks : List Char}
    (hblanks : Blanks blanks) :
    Gives opened s (tag.pairText blanks ++ after) definitions ↔
      ∃ others, Gives opened s (tag.emptyText ++ after) others ∧ definitions =
        if s.MakesBlank tag (readEventsFrom opened after).events then
          others.modify s.found.length Definition.blank
        else others := by
  simp only [gives_pairText_iff htag hblanks, gives_emptyText_iff htag]
  by_cases h : s.TakesCommand tag
  · simp only [Collector.takePair_of_takesCommand h, Collector.takeEmpty_of_takesCommand h,
      Except.ok.injEq, exists_eq_left', gives_commandText_iff hs h]
  · -- Unless it is a command, the pair gathers nothing that the empty tag does not.
    have hsame := Collector.takePair_of_not_takesCommand hs h
    have hnot : ¬ s.MakesBlank tag (readEventsFrom opened after).events := fun hmakes =>
      h hmakes.1
    simp only [if_neg hnot, exists_eq_right']
    constructor
    · rintro ⟨s₂, hpair, hgives⟩
      rw [hpair] at hsame
      obtain ⟨s₁, hempty, hsettled⟩ := exists_of_map_eq_ok hsame.symm
      exact ⟨s₁, hempty, gives_of_settled_eq hsettled.symm hgives⟩
    · rintro ⟨s₁, hempty, hgives⟩
      rw [hempty] at hsame
      obtain ⟨s₂, hpair, hsettled⟩ := exists_of_map_eq_ok hsame
      exact ⟨s₂, hpair, gives_of_settled_eq hsettled.symm hgives⟩

end

namespace Tag

variable (tag : Tag) (before after : List Char)

/-- A document around an element without content, written as an empty tag. -/
def emptyIn : String := String.ofList (before ++ (tag.emptyText ++ after))

/-- A document around an element without content, written as a pair of tags. -/
def pairIn (blanks : List Char) : String := String.ofList (before ++ (tag.pairText blanks ++ after))

variable {tag before after}

/-- Reading comes to an element without content however it is written. -/
theorem reads_emptyIn_iff_pairIn {blanks : List Char} {events : List Event}
    {opened : List (List Char)} :
    Reads [] (withoutMark (tag.emptyIn before after).toList) events opened
        (tag.emptyText ++ after) ↔
      Reads [] (withoutMark (tag.pairIn before after blanks).toList) events opened
        (tag.pairText blanks ++ after) := by
  rw [emptyIn, pairIn, String.toList_ofList, String.toList_ofList]
  exact ⟨fun h => h.swap_withoutMark _, fun h => h.swap_withoutMark _⟩

end Tag

/-- A definition is blank already if it has no query text. -/
theorem modify_blank_eq_self_iff {definitions : List Definition} {index : Nat} :
    definitions.modify index Definition.blank = definitions ↔
      ¬ ∃ d, definitions[index]? = some d ∧ d.sql ≠ "" := by
  have hblank : ∀ d : Definition, d.blank = d ↔ d.sql = "" := fun d =>
    ⟨fun h => (congrArg Definition.sql h).symm, fun h => by rw [Definition.blank, ← h]⟩
  rw [List.ext_getElem?_iff]
  constructor
  · rintro h ⟨d, hd, hsql⟩
    have hindex := h index
    rw [List.getElem?_modify_eq, hd, Option.map_eq_map, Option.map_some, Option.some.injEq,
      hblank] at hindex
    exact hsql hindex
  · intro h i
    by_cases hi : index = i
    · subst hi
      rw [List.getElem?_modify_eq]
      cases hd : definitions[index]? with
      | none => rfl
      | some d =>
        have hsql : d.sql = "" := by
          by_contra hne
          exact h ⟨d, hd, hne⟩
        exact congrArg some ((hblank d).2 hsql)
    · rw [List.getElem?_modify_ne _ _ hi]

/-- **Empty tags and pairs of tags.** If an element without content is written as a pair of tags in
    place of an empty one, or the other way round, a document that is read is read still. The
    definitions are the same, unless the element is the command of a definition that has a text
    else, and no other command or definition counts in its place. The pair takes this text away. -/
theorem parseDocument_pairIn_eq_iff {tag : Tag} (htag : tag.Plain) {blanks : List Char}
    (hblanks : Blanks blanks) {before after : List Char} {events : List Event}
    {opened : List (List Char)}
    (hplace : Reads [] (withoutMark (tag.emptyIn before after).toList) events opened
        (tag.emptyText ++ after) ∨
      Reads [] (withoutMark (tag.pairIn before after blanks).toList) events opened
        (tag.pairText blanks ++ after)) :
    ((∃ ds, parseDocument (tag.emptyIn before after) = .ok ds) ↔
        ∃ ds, parseDocument (tag.pairIn before after blanks) = .ok ds) ∧
      ∀ ds ds', parseDocument (tag.emptyIn before after) = .ok ds →
        parseDocument (tag.pairIn before after blanks) = .ok ds' →
        ∃ s, events.foldlM Collector.take {} = .ok s ∧
          (ds' = ds ↔ ¬ (s.MakesBlank tag (readEventsFrom opened after).events ∧
            ∃ d, ds[s.found.length]? = some d ∧ d.sql ≠ "")) ∧
          (ds' ≠ ds → ds' = ds.modify s.found.length Definition.blank) := by
  have hempty : Reads [] (withoutMark (tag.emptyIn before after).toList) events opened
      (tag.emptyText ++ after) := hplace.elim id Tag.reads_emptyIn_iff_pairIn.2
  have hpair : Reads [] (withoutMark (tag.pairIn before after blanks).toList) events opened
      (tag.pairText blanks ++ after) := Tag.reads_emptyIn_iff_pairIn.1 hempty
  have hfits : ∀ {s}, events.foldlM Collector.take {} = .ok s → s.Fits opened := fun hs =>
    Collector.fits_start.of_reads hempty hs
  simp only [parseDocument_eq_ok_iff_of_reads hempty, parseDocument_eq_ok_iff_of_reads hpair]
  constructor
  · constructor
    · rintro ⟨ds, s, hs, hds⟩
      exact ⟨_, s, hs, (gives_pairText_iff_emptyText (hfits hs) htag hblanks).2 ⟨ds, hds, rfl⟩⟩
    · rintro ⟨ds', s, hs, hds'⟩
      obtain ⟨ds, hds, -⟩ := (gives_pairText_iff_emptyText (hfits hs) htag hblanks).1 hds'
      exact ⟨ds, s, hs, hds⟩
  · rintro ds ds' ⟨s, hs, hds⟩ ⟨_, hs', hds'⟩
    obtain rfl := Except.ok.inj (hs.symm.trans hs')
    -- From the one place each document gives one list of definitions.
    obtain ⟨others, hothers, rfl⟩ :=
      (gives_pairText_iff_emptyText (hfits hs) htag hblanks).1 hds'
    obtain rfl := hothers.unique hds
    refine ⟨s, hs, ?_, fun hne => ?_⟩
    · by_cases hmakes : s.MakesBlank tag (readEventsFrom opened after).events
      · rw [if_pos hmakes, modify_blank_eq_self_iff, and_iff_right hmakes]
      · rw [if_neg hmakes]
        exact iff_of_true rfl fun hboth => hmakes hboth.1
    · by_cases hmakes : s.MakesBlank tag (readEventsFrom opened after).events
      · exact if_pos hmakes
      · exact absurd (if_neg hmakes) hne

/-! ### A command without content -/

/-- The content of a command's tag. -/
def commandTag : Tag := ⟨"SqlCommand".toList⟩

/-- A document up to its command, behind a text of the definition. -/
def beforeCommand : List Char := "<r><q name=\"K\"><SqlDefinition type=\"sqlite\">SELECT 1".toList

/-- The end of the document. -/
def afterCommand : List Char := "</SqlDefinition></q></r>".toList

/-- The tag can be written in both ways. -/
theorem plain_commandTag : commandTag.Plain := by
  have hname : IsName "SqlCommand".toList := by decide
  exact (WrittenAttributes.nil (by decide : Blanks [])).plain hname

/-- The elements that are open at the command. -/
def openAtCommand : List (List Char) := ["SqlDefinition".toList, "q".toList, "r".toList]

/-- Up to the command three elements and a text are read. -/
theorem reads_beforeCommand : Reads [] (withoutMark (commandTag.emptyIn beforeCommand
    afterCommand).toList) [.opening ⟨"r".toList⟩, .opening ⟨"q name=\"K\"".toList⟩,
      .opening ⟨"SqlDefinition type=\"sqlite\"".toList⟩, .text "SELECT 1".toList] openAtCommand
    (commandTag.emptyText ++ afterCommand) := by
  have htext : withoutMark (commandTag.emptyIn beforeCommand afterCommand).toList =
      beforeCommand ++ (commandTag.emptyText ++ afterCommand) := by
    rw [Tag.emptyIn, String.toList_ofList]
    rfl
  have hroot : nextEvent [] (beforeCommand ++ (commandTag.emptyText ++ afterCommand)) =
      .event (.opening ⟨"r".toList⟩) ["r".toList]
        (beforeCommand.drop 3 ++ (commandTag.emptyText ++ afterCommand)) := by
    decide +kernel
  have hentry : nextEvent ["r".toList]
      (beforeCommand.drop 3 ++ (commandTag.emptyText ++ afterCommand)) =
        .event (.opening ⟨"q name=\"K\"".toList⟩) ["q".toList, "r".toList]
          (beforeCommand.drop 15 ++ (commandTag.emptyText ++ afterCommand)) := by
    decide +kernel
  have hdefinition : nextEvent ["q".toList, "r".toList]
      (beforeCommand.drop 15 ++ (commandTag.emptyText ++ afterCommand)) =
        .event (.opening ⟨"SqlDefinition type=\"sqlite\"".toList⟩) openAtCommand
          ("SELECT 1".toList ++ (commandTag.emptyText ++ afterCommand)) := by
    decide +kernel
  have hselect : nextEvent openAtCommand
      ("SELECT 1".toList ++ (commandTag.emptyText ++ afterCommand)) =
        .event (.text "SELECT 1".toList) openAtCommand (commandTag.emptyText ++ afterCommand) := by
    decide +kernel
  rw [htext]
  exact .cons hroot (.cons hentry (.cons hdefinition (.cons hselect (.nil _ _))))

/-- The empty tag leaves the text of the definition as the query. -/
theorem parseDocument_emptyIn_command :
    parseDocument (commandTag.emptyIn beforeCommand afterCommand) =
      .ok [{ name := "K", dialect := .sqlite, sql := "SELECT 1" }] := by
  rw [parseDocument, Tag.emptyIn, String.toList_ofList]
  decide +kernel

/-- The pair of tags makes the query empty. -/
theorem parseDocument_pairIn_command :
    parseDocument (commandTag.pairIn beforeCommand afterCommand []) =
      .ok [{ name := "K", dialect := .sqlite, sql := "" }] := by
  rw [parseDocument, Tag.pairIn, String.toList_ofList]
  decide +kernel

/-- The command takes the text of its definition away if it is written as a pair of tags. -/
theorem parseDocument_pairIn_eq_iff_command :
    commandTag.Plain ∧ Blanks [] ∧
      Reads [] (withoutMark (commandTag.emptyIn beforeCommand afterCommand).toList)
        [.opening ⟨"r".toList⟩, .opening ⟨"q name=\"K\"".toList⟩,
          .opening ⟨"SqlDefinition type=\"sqlite\"".toList⟩, .text "SELECT 1".toList] openAtCommand
        (commandTag.emptyText ++ afterCommand) ∧
      ∃ s : Collector, s.MakesBlank commandTag
          (readEventsFrom openAtCommand afterCommand).events ∧
        [{ name := "K", dialect := .sqlite, sql := "" }] =
          [{ name := "K", dialect := .sqlite, sql := "SELECT 1" }].modify s.found.length
            Definition.blank := by
  obtain ⟨-, hboth⟩ := parseDocument_pairIn_eq_iff plain_commandTag (by decide : Blanks [])
    (.inl reads_beforeCommand)
  obtain ⟨s, -, hsame, hblank⟩ :=
    hboth _ _ parseDocument_emptyIn_command parseDocument_pairIn_command
  have hne : [({ name := "K", dialect := .sqlite, sql := "" } : Definition)] ≠
      [{ name := "K", dialect := .sqlite, sql := "SELECT 1" }] := by decide
  have hmakes := not_not.1 fun hnot => hne (hsame.2 hnot)
  exact ⟨plain_commandTag, by decide, reads_beforeCommand, s, hmakes.1, hblank hne⟩

/-- A document gives another definition if the command of its definition is written as a pair of
    tags in place of an empty one. -/
theorem exists_parseDocument_pairIn_ne :
    ∃ (tag : Tag) (before after : List Char) (events : List Event) (opened : List (List Char))
      (ds ds' : List Definition), tag.Plain ∧
      Reads [] (withoutMark (tag.emptyIn before after).toList) events opened
        (tag.emptyText ++ after) ∧
      parseDocument (tag.emptyIn before after) = .ok ds ∧
      parseDocument (tag.pairIn before after []) = .ok ds' ∧ ds' ≠ ds :=
  ⟨commandTag, beforeCommand, afterCommand, _, openAtCommand, _, _, plain_commandTag,
    reads_beforeCommand, parseDocument_emptyIn_command, parseDocument_pairIn_command, by decide⟩

end QueryBook.Xml
