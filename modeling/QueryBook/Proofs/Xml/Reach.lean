import QueryBook.Proofs.Xml.Nesting

namespace QueryBook

/-!
# How far a text reaches

Two collectors may differ in a text that is gathered and be alike in all else. What they give then
differs in a query text at most, and only until a later text takes its place.

* `Collector.foldlM_eq_of_settled_eq` — the text that is left of a closed definition does not count.
* `Collector.take_behind` — neither does what was found before an event.
* `Reach`, `Reach.blank` — what a command without text makes blank.
* `Reach.next`, `Reach.after` — where this is behind an event, and behind a row of events.
* `Reach.Differs`, `Reach.differs_foldlM` — collectors differ in what is blank, behind any events.
-/

/-- A definition without its query text. -/
def Definition.blank (d : Definition) : Definition := { d with sql := "" }

namespace Xml

/-! ### The text of a closed definition -/

namespace Collector

/-- A collector without the text that is left of a closed definition. -/
def settled (s : Collector) : Collector :=
  if s.target = none then { s with definitionText := [] } else s

variable (s : Collector)

@[simp] theorem settled_depth : s.settled.depth = s.depth := by
  unfold settled
  split <;> rfl

@[simp] theorem settled_found : s.settled.found = s.found := by
  unfold settled
  split <;> rfl

/-- Outside of definitions no text is left. -/
theorem settled_of_target_eq_none {s : Collector} (h : s.target = none) :
    s.settled = { s with definitionText := [] } := if_pos h

/-- In a definition the text stays. -/
theorem settled_of_target_ne_none {s : Collector} (h : s.target ≠ none) : s.settled = s := if_neg h

/-- An opening tag makes the same of a collector without the text that is left. -/
theorem takeOpening_settled (tag : Tag) :
    (s.settled.takeOpening tag).map settled = (s.takeOpening tag).map settled := by
  -- Text that is gathered counts only while there is a target for it.
  by_cases htarget : s.target = none
  · rw [settled_of_target_eq_none htarget]
    unfold takeOpening
    simp only [htarget]
    split
    · cases entryName? tag with
      | error fault => rfl
      | ok name? => simp [settled, bind, Except.bind, Except.map]
    · split
      · next hdefinition =>
        obtain ⟨e, he⟩ := Option.isSome_iff_exists.1 hdefinition.2.1
        simp only [define, he]
        cases definitionOf e.name tag <;> rfl
      · simp [settled, Except.map]
  · rw [settled_of_target_ne_none htarget]

/-- An empty tag makes the same of a collector without the text that is left. -/
theorem takeEmpty_settled (tag : Tag) :
    (s.settled.takeEmpty tag).map settled = (s.takeEmpty tag).map settled := by
  by_cases htarget : s.target = none
  · rw [settled_of_target_eq_none htarget]
    unfold takeEmpty define
    simp only
    split
    · cases hentry : s.entry with
      | none => simp [settled, htarget, hentry, Except.map]
      | some e =>
        cases hdefinition : definitionOf e.name tag with
        | error fault => simp [hdefinition, bind, Except.bind, Except.map]
        | ok d => simp [hdefinition, settled, htarget, bind, Except.bind, Except.map]
    · split
      · cases entryName? tag with
        | error fault => rfl
        | ok name? => simp [settled, htarget, bind, Except.bind, Except.map]
      · simp [settled, htarget, Except.map]
  · rw [settled_of_target_ne_none htarget]

/-- A closing tag makes the same of a collector without the text that is left. -/
theorem takeClosing_settled (name : List Char) :
    (s.settled.takeClosing name).settled = (s.takeClosing name).settled := by
  by_cases htarget : s.target = none
  · rw [settled_of_target_eq_none htarget]
    unfold takeClosing
    simp only [htarget]
    by_cases hentry : s.depth = 2
    · simp [settled, hentry]
    · simp [settled, htarget, hentry]
  · rw [settled_of_target_ne_none htarget]

/-- What is left of a closed definition does not count for any event. -/
theorem take_settled (event : Event) :
    (s.settled.take event).map settled = (s.take event).map settled := by
  cases event with
  | opening tag => exact s.takeOpening_settled tag
  | empty tag => exact s.takeEmpty_settled tag
  | closing name => exact congrArg Except.ok (s.takeClosing_settled name)
  | text raw =>
    by_cases htarget : s.target = none
    · simp [take, settled, htarget, Except.map]
    · rw [settled_of_target_ne_none htarget]
  | cdata chars =>
    by_cases htarget : s.target = none
    · simp [take, takeText, settled, htarget, Except.map]
    · rw [settled_of_target_ne_none htarget]
  | silent =>
    by_cases htarget : s.target = none
    · simp [take, settled, htarget, Except.map]
    · rw [settled_of_target_ne_none htarget]

/-- Two collectors that differ in what is left of a closed definition never differ in more. -/
theorem foldlM_eq_of_settled_eq {s s' : Collector} (h : s.settled = s'.settled)
    (events : List Event) :
    (events.foldlM take s).map settled = (events.foldlM take s').map settled := by
  -- Before each event what is left can be taken away from both.
  induction events generalizing s s' with
  | nil => exact congrArg Except.ok h
  | cons event events ih =>
    have htake : (s.take event).map settled = (s'.take event).map settled := by
      rw [← s.take_settled, h, s'.take_settled]
    rw [List.foldlM_cons, List.foldlM_cons]
    cases hs : s.take event with
    | error fault =>
      cases hs' : s'.take event with
      | error fault' =>
        rw [hs, hs'] at htake
        exact htake
      | ok t' => rw [hs, hs'] at htake; cases htake
    | ok t =>
      cases hs' : s'.take event with
      | error fault' => rw [hs, hs'] at htake; cases htake
      | ok t' =>
        rw [hs, hs'] at htake
        exact ih (Except.ok.inj htake)

end Collector

/-! ### Definitions that were found -/

namespace Collector

/-- A collector that has found some definitions before. -/
def behind (earlier : List Definition) (s : Collector) : Collector :=
  { s with found := earlier ++ s.found }

variable (s : Collector) (earlier : List Definition)

/-- An opening tag leaves what was found before where it is. -/
theorem takeOpening_behind (tag : Tag) :
    (s.behind earlier).takeOpening tag = (s.takeOpening tag).map (behind earlier) := by
  have hopens := s.opens_takeOpening tag
  generalize s.takeOpening tag = r at hopens
  cases hopens with
  | entry hdepth =>
    have hopens : (s.behind earlier).Opens tag _ := .entry hdepth
    rw [hopens.takeOpening_eq]
    cases entryName? tag <;> rfl
  | definition hdepth hentry hname =>
    have hopens : (s.behind earlier).Opens tag _ := .definition hdepth hentry hname
    rw [hopens.takeOpening_eq]
    cases definitionOf _ tag <;> rfl
  | command hdepth htarget hname =>
    have hopens : (s.behind earlier).Opens tag _ := .command hdepth htarget hname
    exact hopens.takeOpening_eq
  | other hentry hdefinition hcommand =>
    have hopens : (s.behind earlier).Opens tag _ := .other hentry hdefinition hcommand
    exact hopens.takeOpening_eq

/-- An empty tag leaves what was found before where it is. -/
theorem takeEmpty_behind (tag : Tag) :
    (s.behind earlier).takeEmpty tag = (s.takeEmpty tag).map (behind earlier) := by
  have hskips := s.skips_takeEmpty tag
  generalize s.takeEmpty tag = r at hskips
  cases hskips with
  | entry hdepth =>
    have hskips : (s.behind earlier).Skips tag _ := .entry hdepth
    rw [hskips.takeEmpty_eq]
    cases entryName? tag <;> rfl
  | definition hdepth hentry hname =>
    have hskips : (s.behind earlier).Skips tag _ := .definition hdepth hentry hname
    rw [hskips.takeEmpty_eq]
    cases definitionOf _ tag <;> rfl
  | other hentry hdefinition =>
    have hskips : (s.behind earlier).Skips tag _ := .other hentry hdefinition
    exact hskips.takeEmpty_eq

/-- A closing tag leaves what was found before where it is. -/
theorem takeClosing_behind (name : List Char) :
    (s.behind earlier).takeClosing name = (s.takeClosing name).behind earlier := by
  have hcloses := s.closes_takeClosing name
  generalize s.takeClosing name = s' at hcloses
  cases hcloses with
  | entry hdepth =>
    have hcloses : (s.behind earlier).Closes name _ := .entry hdepth
    rw [hcloses.takeClosing_eq]
    simp [behind]
  | definition hdepth htarget hname =>
    have hcloses : (s.behind earlier).Closes name _ := .definition hdepth htarget hname
    exact hcloses.takeClosing_eq
  | command hdepth htarget =>
    have hcloses : (s.behind earlier).Closes name _ := .command hdepth htarget
    exact hcloses.takeClosing_eq
  | other hentry hdefinition hcommand =>
    have hcloses : (s.behind earlier).Closes name _ := .other hentry hdefinition hcommand
    exact hcloses.takeClosing_eq

/-- Text leaves what was found before where it is. -/
theorem takeText_behind (chars : List Char) :
    (s.behind earlier).takeText chars = (s.takeText chars).behind earlier := by
  cases htarget : s.target with
  | none => simp [takeText, behind, htarget]
  | some target => cases target <;> simp [takeText, behind, htarget, append]

/-- What was found before stays in front. -/
theorem take_behind (event : Event) :
    (s.behind earlier).take event = (s.take event).map (behind earlier) := by
  cases event with
  | opening tag => exact s.takeOpening_behind earlier tag
  | empty tag => exact s.takeEmpty_behind earlier tag
  | closing name => exact congrArg Except.ok (s.takeClosing_behind earlier name)
  | text raw =>
    have htarget : (s.behind earlier).target = s.target := rfl
    simp only [take, htarget]
    split
    · rfl
    · cases expand raw with
      | error fault => rfl
      | ok chars => exact congrArg Except.ok (s.takeText_behind earlier chars)
  | cdata chars => exact congrArg Except.ok (s.takeText_behind earlier chars)
  | silent => rfl

end Collector

/-! ### What a command makes blank -/

/-- What a command without text makes blank, when nothing else has taken its place. -/
inductive Reach where
  /-- Something else has. -/
  | nothing
  /-- The definition that is open, -/
  | definition
  /-- the one of the entry that is open, -/
  | entry
  /-- or one that was found. -/
  | found
deriving DecidableEq, Repr

/-- The number of open elements behind an event. -/
def Event.depthBehind (depth : Nat) : Event → Nat
  | .opening _ => depth + 1
  | .closing _ => depth - 1
  | .empty _ | .text _ | .cdata _ | .silent => depth

/-- The depth behind an event follows from that before it. -/
theorem Collector.Fits.depth_eq {s s' : Collector} {opened opened' : List (List Char)}
    {event : Event} (h' : s'.Fits opened') (h : s.Fits opened)
    (hmoves : event.Moves opened opened') : s'.depth = event.depthBehind s.depth := by
  rw [h.depth, h'.depth]
  cases event <;> cases hmoves <;> rfl

/-- To change an element of a list leaves what is behind the list. -/
theorem modify_append {α : Type} {l : List α} {index : Nat} (h : index < l.length) (f : α → α)
    (more : List α) : (l ++ more).modify index f = l.modify index f ++ more := by
  induction l generalizing index with
  | nil => cases h
  | cons a l ih =>
    cases index with
    | zero => rfl
    | succ index => simp [ih (Nat.lt_of_succ_lt_succ h)]

namespace Reach

/-- What is blank behind an event: another command takes the place of the command, and another
    definition that of its definition. -/
def next (depth : Nat) : Reach → Event → Reach
  | .definition, .opening tag =>
    if depth = 3 ∧ tag.localName = commandName then .nothing else .definition
  | .definition, .closing _ => if depth = 3 then .entry else .definition
  | .entry, .opening tag | .entry, .empty tag =>
    if depth = 2 ∧ tag.localName = definitionName then .nothing else .entry
  | .entry, .closing _ => if depth = 2 then .found else .entry
  | reach, _ => reach

/-- What is blank behind a row of events. -/
def after (depth : Nat) (reach : Reach) : List Event → Reach
  | [] => reach
  | event :: events => after (event.depthBehind depth) (reach.next depth event) events

/-- A collector in which the command has no text. The definition it stands in, when it is found,
    is that of an index. -/
def blank (index : Nat) (s : Collector) : Reach → Collector
  | .nothing => s
  | .definition => { s with commandText := some [] }
  | .entry => { s with
      entry := s.entry.map fun e => { e with definition := e.definition.map Definition.blank } }
  | .found => { s with found := s.found.modify index Definition.blank }

/-- What is blank makes no difference to the depth. -/
theorem blank_depth (reach : Reach) (index : Nat) (s : Collector) :
    (reach.blank index s).depth = s.depth := by
  cases reach <;> rfl

/-- Of the definitions that were found at most the one of the index is blank. -/
theorem blank_found (reach : Reach) (index : Nat) (s : Collector) :
    (reach.blank index s).found =
      if reach = .found then s.found.modify index Definition.blank else s.found := by
  cases reach <;> rfl

/-- The collector has what is blank then. -/
def Fits (index : Nat) (s : Collector) : Reach → Prop
  | .nothing => True
  | .definition => s.target = some .definition ∧ s.found.length = index
  | .entry => s.target = none ∧ s.found.length = index ∧
      ∃ e d, s.entry = some e ∧ e.definition = some d
  | .found => index < s.found.length

/-- Two results differ in what is blank. -/
def Differs (index : Nat) (reach : Reach) (r r' : Except DocumentFault Collector) : Prop :=
  r' = r.map (reach.blank index) ∧ ∀ s, r = .ok s → reach.Fits index s

section

variable {index : Nat} {s : Collector} {opened opened' : List (List Char)} {event : Event}

/-- A collector and the one in which the command is blank differ in this. -/
theorem Differs.ok {reach : Reach} (h : reach.Fits index s) :
    reach.Differs index (.ok s) (.ok (reach.blank index s)) :=
  ⟨rfl, fun s' hs' => by
    cases hs'
    exact h⟩

/-- Where nothing is blank results do not differ. -/
theorem differs_nothing (r : Except DocumentFault Collector) : Reach.nothing.Differs index r r := by
  refine ⟨?_, fun _ _ => trivial⟩
  cases r with
  | error fault => rfl
  | ok s => rfl

/-- While the definition is open, its command stays without text until there is another one. -/
theorem differs_of_definition (hs : s.Fits opened) (h : Reach.definition.Fits index s)
    (hmoves : event.Moves opened opened') :
    (Reach.definition.next s.depth event).Differs index (s.take event)
      ((Reach.definition.blank index s).take event) := by
  have ⟨htarget, hfound⟩ := h
  obtain ⟨hopen, e, d, he, hd⟩ := hs.definition (by rw [htarget]; rfl)
  have hdepth' := hs.depth
  have hlength := hopen.length_le
  have htext : ∀ chars, Reach.definition.Differs index (.ok (s.takeText chars))
      (.ok ((Reach.definition.blank index s).takeText chars)) := by
    intro chars
    have hgathers : Reach.definition.Fits index (s.takeText chars) := by
      simp [Fits, Collector.takeText, htarget, Collector.append, hfound]
    have hblank : (Reach.definition.blank index s).takeText chars =
        Reach.definition.blank index (s.takeText chars) := by
      simp [blank, Collector.takeText, htarget, Collector.append]
    rw [hblank]
    exact .ok hgathers
  cases event with
  | opening tag =>
    have hopens := s.opens_takeOpening tag
    simp only [Collector.take]
    generalize s.takeOpening tag = r at hopens
    cases hopens with
    -- Three elements are open at least, too many for an entry or a definition to begin.
    | entry hdepth => omega
    | definition hdepth hentry hname => omega
    | command hdepth _ hname =>
      have hopens : (Reach.definition.blank index s).Opens tag _ := .command hdepth htarget hname
      have hnext : Reach.definition.next s.depth (.opening tag) = .nothing :=
        if_pos ⟨hdepth, hname⟩
      rw [hnext, hopens.takeOpening_eq]
      exact differs_nothing _
    | other hentry hdefinition hcommand =>
      have hopens : (Reach.definition.blank index s).Opens tag _ :=
        .other hentry hdefinition hcommand
      have hnext : Reach.definition.next s.depth (.opening tag) = .definition :=
        if_neg fun hnew => hcommand hnew.1 htarget hnew.2
      rw [hnext, hopens.takeOpening_eq]
      exact .ok h
  | empty tag =>
    have hskips := s.skips_takeEmpty tag
    simp only [Collector.take]
    generalize s.takeEmpty tag = r at hskips
    cases hskips with
    | entry hdepth => omega
    | definition hdepth hentry hname => omega
    | other hentry hdefinition =>
      have hskips : (Reach.definition.blank index s).Skips tag _ := .other hentry hdefinition
      rw [hskips.takeEmpty_eq]
      exact .ok h
  | closing name =>
    have hcloses := s.closes_takeClosing name
    simp only [Collector.take]
    generalize s.takeClosing name = s' at hcloses
    cases hcloses with
    | entry hdepth => omega
    | definition hdepth hsome hname =>
      have hcloses : (Reach.definition.blank index s).Closes name _ :=
        .definition hdepth hsome hname
      have hnext : Reach.definition.next s.depth (.closing name) = .entry := if_pos hdepth
      rw [hnext, hcloses.takeClosing_eq]
      have hblank : ({ (Reach.definition.blank index s).closeDefinition with depth := 2 } :
          Collector) = Reach.entry.blank index { s.closeDefinition with depth := 2 } := by
        simp [blank, Collector.closeDefinition, he, hd, Definition.blank]
      rw [hblank]
      refine .ok ⟨rfl, hfound, ?_⟩
      simp [Collector.closeDefinition, he, hd]
    | command hdepth hcommand => exact absurd hcommand (by simp [htarget])
    | other hentry hdefinition hcommand =>
      -- The closing tag would be that of the definition.
      have hne : s.depth ≠ 3 := by
        intro hdepth
        cases hmoves
        rw [List.length_cons] at hdepth'
        rcases hopen.of_cons with ⟨-, hname⟩ | hopen
        · exact hdefinition hdepth (by rw [htarget]; rfl) hname
        · have := hopen.length_le
          omega
      have hcloses : (Reach.definition.blank index s).Closes name _ :=
        .other hentry hdefinition hcommand
      have hnext : Reach.definition.next s.depth (.closing name) = .definition := if_neg hne
      rw [hnext, hcloses.takeClosing_eq]
      exact .ok h
  | text raw =>
    have htarget' : (Reach.definition.blank index s).target = some .definition := htarget
    simp only [Collector.take, htarget, htarget']
    cases expand raw with
    | error fault => exact ⟨rfl, fun s' hs' => by cases hs'⟩
    | ok chars => exact htext chars
  | cdata chars => exact htext chars
  | silent => exact .ok h

/-- A definition that is closed stays blank until its entry has another one. -/
theorem differs_of_entry (hs : s.Fits opened) (h : Reach.entry.Fits index s) :
    (Reach.entry.next s.depth event).Differs index (s.take event)
      ((Reach.entry.blank index s).take event) := by
  have ⟨htarget, hfound, e, d, he, hd⟩ := h
  have hsome : s.entry.isSome := by rw [he]; rfl
  have hdepth' := hs.entry hsome
  have hblank : (Reach.entry.blank index s).entry =
      some { e with definition := some d.blank } := by
    simp [blank, he, hd]
  cases event with
  | opening tag =>
    have hopens := s.opens_takeOpening tag
    simp only [Collector.take]
    generalize s.takeOpening tag = r at hopens
    cases hopens with
    | entry hdepth => omega
    | definition hdepth hentry hname =>
      obtain rfl := Option.some.inj (he.symm.trans hentry)
      have hopens : (Reach.entry.blank index s).Opens tag _ := .definition hdepth hblank hname
      have hnext : Reach.entry.next s.depth (.opening tag) = .nothing := if_pos ⟨hdepth, hname⟩
      rw [hnext, hopens.takeOpening_eq]
      exact differs_nothing _
    | command hdepth hdefinition hname => exact absurd hdefinition (by simp [htarget])
    | other hentry hdefinition hcommand =>
      have hopens : (Reach.entry.blank index s).Opens tag _ :=
        .other hentry (fun hdepth _ => hdefinition hdepth hsome) hcommand
      have hnext : Reach.entry.next s.depth (.opening tag) = .entry :=
        if_neg fun hnew => hdefinition hnew.1 hsome hnew.2
      rw [hnext, hopens.takeOpening_eq]
      exact .ok h
  | empty tag =>
    have hskips := s.skips_takeEmpty tag
    simp only [Collector.take]
    generalize s.takeEmpty tag = r at hskips
    cases hskips with
    | entry hdepth => omega
    | definition hdepth hentry hname =>
      obtain rfl := Option.some.inj (he.symm.trans hentry)
      have hskips : (Reach.entry.blank index s).Skips tag _ := .definition hdepth hblank hname
      have hnext : Reach.entry.next s.depth (.empty tag) = .nothing := if_pos ⟨hdepth, hname⟩
      rw [hnext, hskips.takeEmpty_eq]
      exact differs_nothing _
    | other hentry hdefinition =>
      have hskips : (Reach.entry.blank index s).Skips tag _ :=
        .other hentry fun hdepth _ => hdefinition hdepth hsome
      have hnext : Reach.entry.next s.depth (.empty tag) = .entry :=
        if_neg fun hnew => hdefinition hnew.1 hsome hnew.2
      rw [hnext, hskips.takeEmpty_eq]
      exact .ok h
  | closing name =>
    have hcloses := s.closes_takeClosing name
    simp only [Collector.take]
    generalize s.takeClosing name = s' at hcloses
    cases hcloses with
    | entry hdepth =>
      -- The definition of the entry comes last among those that were found.
      have hcloses : (Reach.entry.blank index s).Closes name _ := .entry hdepth
      have hnext : Reach.entry.next s.depth (.closing name) = .found := if_pos hdepth
      have hadded : (Reach.entry.blank index s).found ++ [d.blank] =
          (s.found ++ [d]).modify index Definition.blank := by
        rw [← hfound]
        exact (List.modifyTailIdx_add (List.modifyHead Definition.blank) 0 s.found [d]).symm
      rw [hnext, hcloses.takeClosing_eq]
      simp only [hblank, he, hd, Option.bind_some, Option.toList_some, hadded]
      refine .ok ?_
      simp [Fits, hfound]
    | definition hdepth hopen hname => exact absurd hopen (by simp [htarget])
    | command hdepth hcommand => exact absurd hcommand (by simp [htarget])
    | other hentry hdefinition hcommand =>
      have hcloses : (Reach.entry.blank index s).Closes name _ :=
        .other hentry hdefinition hcommand
      have hnext : Reach.entry.next s.depth (.closing name) = .entry := if_neg hentry
      rw [hnext, hcloses.takeClosing_eq]
      exact .ok h
  | text raw =>
    have htake : ∀ s' : Collector, s'.target = none → s'.take (.text raw) = .ok s' :=
      fun s' hs' => if_pos (by rw [hs']; rfl)
    rw [htake s htarget, htake (Reach.entry.blank index s) htarget]
    exact .ok h
  | cdata chars =>
    have htake : ∀ s' : Collector, s'.target = none → s'.take (.cdata chars) = .ok s' :=
      fun s' hs' => congrArg Except.ok (Collector.takeText_of_target_eq_none hs' chars)
    rw [htake s htarget, htake (Reach.entry.blank index s) htarget]
    exact .ok h
  | silent => exact .ok h

/-- A definition that was found stays blank. -/
theorem differs_of_found (h : Reach.found.Fits index s) :
    Reach.found.Differs index (s.take event) ((Reach.found.blank index s).take event) := by
  have hindex : index < (s.found.take (index + 1)).length := by
    rw [List.length_take]
    exact Nat.lt_min.2 ⟨Nat.lt_succ_self index, h⟩
  -- What was found up to the definition does not count for the event.
  generalize hearlier : s.found.take (index + 1) = earlier at hindex
  have hs : s = ({ s with found := s.found.drop (index + 1) } : Collector).behind earlier := by
    simp [Collector.behind, ← hearlier]
  have hblank : ∀ s' : Collector, Reach.found.blank index (s'.behind earlier) =
      s'.behind (earlier.modify index Definition.blank) := fun s' => by
    simp [blank, Collector.behind, modify_append hindex]
  rw [hs, hblank, Collector.take_behind, Collector.take_behind]
  cases Collector.take _ event with
  | error fault => exact ⟨rfl, fun s' hs' => by cases hs'⟩
  | ok s' =>
    refine ⟨congrArg Except.ok (hblank s').symm, fun t ht => ?_⟩
    cases ht
    rw [Fits, Collector.behind, List.length_append]
    omega

/-- What is blank behind an event. -/
theorem differs_of_fits {reach : Reach} (hs : s.Fits opened) (h : reach.Fits index s)
    (hmoves : event.Moves opened opened') :
    (reach.next s.depth event).Differs index (s.take event)
      ((reach.blank index s).take event) := by
  cases reach with
  | nothing => exact differs_nothing _
  | definition => exact differs_of_definition hs h hmoves
  | entry => exact differs_of_entry hs h
  | found => exact differs_of_found h

/-- What is blank behind a row of events. -/
theorem differs_foldlM {reach : Reach} (hs : s.Fits opened) (h : reach.Fits index s)
    {events : List Event} (hevents : Nested opened events) :
    (reach.after s.depth events).Differs index (events.foldlM Collector.take s)
      (events.foldlM Collector.take (reach.blank index s)) := by
  induction hevents generalizing s reach with
  | nil opened => exact .ok h
  | @cons opened opened' event events hmoves _ ih =>
    obtain ⟨htake, hfits⟩ := differs_of_fits hs h hmoves
    rw [List.foldlM_cons, List.foldlM_cons, htake]
    cases hs' : s.take event with
    | error fault => exact ⟨rfl, fun t ht => by cases ht⟩
    | ok s' =>
      have hs₁ := hs.take hmoves hs'
      rw [after, ← hs₁.depth_eq hs hmoves]
      exact ih hs₁ (hfits s' hs')

end

end Reach

end Xml

end QueryBook
