import Mathlib.Data.List.Basic
import QueryBook.Proofs.Xml.Ignored
import QueryBook.Proofs.Xml.Places

namespace QueryBook.Xml

/-!
# Collectors and open elements

A reader knows the names of the elements that are open, a collector only how many there are. The two
fit each other: text is gathered inside a `SqlDefinition` of an entry, and nowhere else.

* `Nested` — a row of events, as they may follow each other while some elements are open.
* `Collector.Fits` — what a collector knows about the elements that are open.
* `Collector.Fits.take`, `Collector.Fits.of_reads` — it does so behind each event, at every place.
-/

/-- Events that may follow each other: each closing tag is that of the innermost open element. -/
inductive Nested : List (List Char) → List Event → Prop
  | nil (opened : List (List Char)) : Nested opened []
  | cons {opened opened' : List (List Char)} {event : Event} {events : List Event}
      (h : event.Moves opened opened') (hevents : Nested opened' events) :
      Nested opened (event :: events)

/-- What is left of a document is read as such events. -/
theorem nested_readEventsFrom (opened : List (List Char)) (cs : List Char) :
    Nested opened (readEventsFrom opened cs).events := by
  induction opened, cs using readEventsFrom.induct with
  | case1 opened cs h =>
    rw [readEventsFrom]
    split
    · exact .nil opened
    · exact .nil opened
    · next he => exact Step.noConfusion (h.symm.trans he)
  | case2 opened cs fault rest h =>
    rw [readEventsFrom]
    split
    · exact .nil opened
    · exact .nil opened
    · next he => exact Step.noConfusion (h.symm.trans he)
  | case3 opened cs event opened' rest h hlt ih =>
    rw [readEventsFrom]
    split
    · exact .nil opened
    · exact .nil opened
    · next he =>
      obtain ⟨rfl, rfl, rfl⟩ := Step.event.inj (h.symm.trans he)
      exact .cons (moves_of_event h) ih

/-- A definition is open in an entry, at the depth where collectors look for it. -/
def DefinitionOpen (opened : List (List Char)) : Prop :=
  ∃ inner name entry root, opened = inner ++ [name, entry, root] ∧
    (Tag.mk name).localName = definitionName

namespace DefinitionOpen

variable {opened : List (List Char)} {name : List Char}

/-- Where a definition is open three elements are. -/
theorem length_le (h : DefinitionOpen opened) : 3 ≤ opened.length := by
  obtain ⟨inner, name, entry, root, rfl, -⟩ := h
  simp

/-- A definition stays open in the elements inside it. -/
theorem cons (h : DefinitionOpen opened) (name : List Char) : DefinitionOpen (name :: opened) := by
  obtain ⟨inner, definition, entry, root, rfl, hname⟩ := h
  exact ⟨name :: inner, definition, entry, root, rfl, hname⟩

/-- The innermost element is the definition, or an element inside it. -/
theorem of_cons (h : DefinitionOpen (name :: opened)) :
    opened.length = 2 ∧ (Tag.mk name).localName = definitionName ∨ DefinitionOpen opened := by
  obtain ⟨inner, definition, entry, root, hopened, hname⟩ := h
  cases inner with
  | nil =>
    obtain ⟨rfl, rfl⟩ := List.cons.inj hopened
    exact .inl ⟨rfl, hname⟩
  | cons first inner =>
    obtain ⟨rfl, rfl⟩ := List.cons.inj hopened
    exact .inr ⟨inner, definition, entry, root, rfl, hname⟩

end DefinitionOpen

/-- The name of an element is what a closing tag holds. -/
theorem localName_mk_name (tag : Tag) : (Tag.mk tag.name).localName = tag.localName := by
  have hname : (Tag.mk tag.name).name = tag.name := by
    simp [Tag.name, List.takeWhile_takeWhile]
  rw [localName_eq_localPart, localName_eq_localPart, hname]

/-- What a map makes of a result comes from a result. -/
theorem exists_of_map_eq_ok {ε α β : Type} {x : Except ε α} {f : α → β} {b : β}
    (h : x.map f = .ok b) : ∃ a, x = .ok a ∧ f a = b := by
  cases x with
  | error fault => cases h
  | ok a => exact ⟨a, rfl, Except.ok.inj h⟩

namespace Collector

/-! ### What the tags are for -/

/-- What a collector makes of an opening tag: an entry, a definition, a command, or nothing but an
    element more. -/
inductive Opens (s : Collector) (tag : Tag) : Except DocumentFault Collector → Prop
  | entry (hdepth : s.depth = 1) :
      Opens s tag ((entryName? tag).map fun name? =>
        { s with depth := 2, entry := name?.map fun name => ⟨name, none⟩ })
  | definition {e : Entry} (hdepth : s.depth = 2) (hentry : s.entry = some e)
      (hname : tag.localName = definitionName) :
      Opens s tag ((definitionOf e.name tag).map fun d =>
        { s with
          depth := 3
          entry := some { e with definition := some d }
          definitionText := []
          commandText := none
          target := some .definition })
  | command (hdepth : s.depth = 3) (htarget : s.target = some .definition)
      (hname : tag.localName = commandName) :
      Opens s tag (.ok { s with depth := 4, commandText := some [], target := some .command })
  | other (hentry : s.depth ≠ 1)
      (hdefinition : s.depth = 2 → s.entry.isSome → tag.localName ≠ definitionName)
      (hcommand : s.depth = 3 → s.target = some .definition → tag.localName ≠ commandName) :
      Opens s tag (.ok { s with depth := s.depth + 1 })

/-- What a collector makes of an empty tag. -/
inductive Skips (s : Collector) (tag : Tag) : Except DocumentFault Collector → Prop
  | entry (hdepth : s.depth = 1) : Skips s tag ((entryName? tag).map fun _ => s)
  | definition {e : Entry} (hdepth : s.depth = 2) (hentry : s.entry = some e)
      (hname : tag.localName = definitionName) :
      Skips s tag ((definitionOf e.name tag).map fun d =>
        { s with entry := some { e with definition := some d } })
  | other (hentry : s.depth ≠ 1)
      (hdefinition : s.depth = 2 → s.entry.isSome → tag.localName ≠ definitionName) :
      Skips s tag (.ok s)

/-- What a collector makes of a closing tag. -/
inductive Closes (s : Collector) (name : List Char) : Collector → Prop
  | entry (hdepth : s.depth = 2) :
      Closes s name { s with
        depth := 1
        found := s.found ++ (s.entry.bind Entry.definition).toList
        entry := none }
  | definition (hdepth : s.depth = 3) (htarget : s.target.isSome)
      (hname : (Tag.mk name).localName = definitionName) :
      Closes s name { s.closeDefinition with depth := 2 }
  | command (hdepth : s.depth = 4) (htarget : s.target = some .command) :
      Closes s name { s with depth := 3, target := some .definition }
  | other (hentry : s.depth ≠ 2)
      (hdefinition : s.depth = 3 → s.target.isSome → (Tag.mk name).localName ≠ definitionName)
      (hcommand : s.depth = 4 → s.target ≠ some .command) :
      Closes s name { s with depth := s.depth - 1 }

variable {s : Collector} {tag : Tag} {r : Except DocumentFault Collector}

/-- The rules for opening tags say what a collector makes of one. -/
theorem Opens.takeOpening_eq (h : s.Opens tag r) : s.takeOpening tag = r := by
  cases h with
  | entry hdepth =>
    simp only [takeOpening, hdepth]
    cases entryName? tag <;> rfl
  | definition hdepth hentry hname =>
    simp only [takeOpening, hdepth, define, hentry, hname]
    cases definitionOf _ tag <;> rfl
  | command hdepth htarget hname => simp [takeOpening, hdepth, htarget, hname]
  | other hentry hdefinition hcommand =>
    simp only [takeOpening]
    rw [if_neg (by omega), if_neg, if_neg]
    · rintro ⟨hdepth, htarget, hname⟩
      exact hcommand (by omega) htarget hname
    · rintro ⟨hdepth, hsome, hname⟩
      exact hdefinition (by omega) hsome hname

/-- What a collector makes of an opening tag follows one of the rules. -/
theorem opens_takeOpening (s : Collector) (tag : Tag) : s.Opens tag (s.takeOpening tag) := by
  have of : ∀ {r}, s.Opens tag r → s.Opens tag (s.takeOpening tag) := fun h =>
    h.takeOpening_eq ▸ h
  by_cases hentry : s.depth = 1
  · exact of (.entry hentry)
  · by_cases hdefinition : s.depth = 2 ∧ s.entry.isSome ∧ tag.localName = definitionName
    · obtain ⟨hdepth, hsome, hname⟩ := hdefinition
      obtain ⟨e, he⟩ := Option.isSome_iff_exists.1 hsome
      exact of (.definition hdepth he hname)
    · by_cases hcommand :
          s.depth = 3 ∧ s.target = some .definition ∧ tag.localName = commandName
      · exact of (.command hcommand.1 hcommand.2.1 hcommand.2.2)
      · exact of (.other hentry (fun hdepth hsome hname => hdefinition ⟨hdepth, hsome, hname⟩)
          fun hdepth htarget hname => hcommand ⟨hdepth, htarget, hname⟩)

/-- The rules for empty tags say what a collector makes of one. -/
theorem Skips.takeEmpty_eq (h : s.Skips tag r) : s.takeEmpty tag = r := by
  cases h with
  | entry hdepth =>
    simp only [takeEmpty, hdepth]
    cases entryName? tag <;> rfl
  | definition hdepth hentry hname =>
    simp only [takeEmpty, hdepth, define, hentry, hname]
    cases definitionOf _ tag <;> rfl
  | other hentry hdefinition =>
    rw [takeEmpty]
    split
    · next hif =>
      cases he : s.entry with
      | none => rw [define, he]
      | some e => exact absurd hif.2 (hdefinition hif.1 (by rw [he]; rfl))
    · rfl

/-- What a collector makes of an empty tag follows one of the rules. -/
theorem skips_takeEmpty (s : Collector) (tag : Tag) : s.Skips tag (s.takeEmpty tag) := by
  have of : ∀ {r}, s.Skips tag r → s.Skips tag (s.takeEmpty tag) := fun h => h.takeEmpty_eq ▸ h
  by_cases hentry : s.depth = 1
  · exact of (.entry hentry)
  · by_cases hdefinition : s.depth = 2 ∧ s.entry.isSome ∧ tag.localName = definitionName
    · obtain ⟨hdepth, hsome, hname⟩ := hdefinition
      obtain ⟨e, he⟩ := Option.isSome_iff_exists.1 hsome
      exact of (.definition hdepth he hname)
    · exact of (.other hentry fun hdepth hsome hname => hdefinition ⟨hdepth, hsome, hname⟩)

/-- The rules for closing tags say what a collector makes of one. -/
theorem Closes.takeClosing_eq {s' : Collector} {name : List Char} (h : s.Closes name s') :
    s.takeClosing name = s' := by
  cases h with
  | entry hdepth => simp [takeClosing, hdepth]
  | definition hdepth htarget hname => simp [takeClosing, hdepth, htarget, hname]
  | command hdepth htarget => simp [takeClosing, hdepth, htarget]
  | other hentry hdefinition hcommand =>
    rw [takeClosing, if_neg hentry, if_neg fun h => hdefinition h.1 h.2.1 h.2.2,
      if_neg fun h => hcommand h.1 h.2]

/-- What a collector makes of a closing tag follows one of the rules. -/
theorem closes_takeClosing (s : Collector) (name : List Char) :
    s.Closes name (s.takeClosing name) := by
  have of : ∀ {s'}, s.Closes name s' → s.Closes name (s.takeClosing name) := fun h =>
    h.takeClosing_eq ▸ h
  by_cases hentry : s.depth = 2
  · exact of (.entry hentry)
  · by_cases hdefinition :
        s.depth = 3 ∧ s.target.isSome ∧ (Tag.mk name).localName = definitionName
    · exact of (.definition hdefinition.1 hdefinition.2.1 hdefinition.2.2)
    · by_cases hcommand : s.depth = 4 ∧ s.target = some .command
      · exact of (.command hcommand.1 hcommand.2)
      · exact of (.other hentry (fun hdepth hsome hname => hdefinition ⟨hdepth, hsome, hname⟩)
          fun hdepth htarget => hcommand ⟨hdepth, htarget⟩)

end Collector

/-! ### What a collector knows -/

/-- A collector fits the elements that are open. -/
structure Collector.Fits (s : Collector) (opened : List (List Char)) : Prop where
  depth : s.depth = opened.length
  entry : s.entry.isSome → 2 ≤ s.depth
  /-- Text is gathered for the definition that is open, -/
  definition : s.target.isSome → DefinitionOpen opened ∧
    ∃ e d, s.entry = some e ∧ e.definition = some d
  /-- or for an element inside it. -/
  command : s.target = some .command → 4 ≤ s.depth
  commandText : s.target = none → s.commandText = none

namespace Collector

variable {s s' : Collector} {opened opened' : List (List Char)}

/-- A collector begins with no element open. -/
theorem fits_start : ({} : Collector).Fits [] where
  depth := rfl
  entry := fun h => nomatch h
  definition := fun h => nomatch h
  command := fun h => nomatch h
  commandText := fun _ => rfl

namespace Fits

/-- Outside a definition no text is gathered. -/
theorem target_eq_none (h : s.Fits opened) (hdepth : s.depth ≤ 2) : s.target = none := by
  by_contra htarget
  have hopen := (h.definition (Option.isSome_iff_ne_none.2 htarget)).1.length_le
  have := h.depth
  omega

/-- No entry is open at the root or outside of it. -/
theorem entry_eq_none (h : s.Fits opened) (hdepth : s.depth ≤ 1) : s.entry = none := by
  by_contra hentry
  have := h.entry (Option.isSome_iff_ne_none.2 hentry)
  omega

theorem takeText (h : s.Fits opened) (chars : List Char) : (s.takeText chars).Fits opened where
  depth := by
    rw [takeText_depth]
    exact h.depth
  entry := by
    rw [takeText_depth, takeText_entry]
    exact h.entry
  definition := by
    rw [takeText_target, takeText_entry]
    exact h.definition
  command := by
    rw [takeText_target, takeText_depth]
    exact h.command
  commandText := by
    rw [takeText_target]
    intro htarget
    rw [takeText_of_target_eq_none htarget]
    exact h.commandText htarget

theorem takeOpening (h : s.Fits opened) {tag : Tag} (htake : s.takeOpening tag = .ok s') :
    s'.Fits (tag.name :: opened) := by
  have hdepth' := h.depth
  have hopens := s.opens_takeOpening tag
  rw [htake] at hopens
  generalize hr : (.ok s' : Except DocumentFault Collector) = r at hopens
  cases hopens with
  | entry hdepth =>
    obtain ⟨name?, -, rfl⟩ := exists_of_map_eq_ok hr.symm
    have htarget := h.target_eq_none (by omega)
    exact {
      depth := by simp; omega
      entry := fun _ => le_rfl
      definition := fun hsome => absurd hsome (by simp [htarget])
      command := fun hcommand => absurd hcommand (by simp [htarget])
      commandText := h.commandText }
  | @definition e hdepth hentry hname =>
    obtain ⟨d, -, rfl⟩ := exists_of_map_eq_ok hr.symm
    -- The tag opens the third element, in an entry and a root.
    obtain ⟨entry, root, rfl⟩ := List.length_eq_two.1 (h.depth.symm.trans hdepth)
    exact {
      depth := rfl
      entry := fun _ => by simp
      definition := fun _ => ⟨⟨[], tag.name, entry, root, rfl, (localName_mk_name tag).trans hname⟩,
        { e with definition := some d }, d, rfl, rfl⟩
      command := fun hcommand => nomatch hcommand
      commandText := fun htarget => nomatch htarget }
  | command hdepth htarget hname =>
    obtain rfl := Except.ok.inj hr
    obtain ⟨hopen, hentry⟩ := h.definition (by simp [htarget])
    exact {
      depth := by simp; omega
      entry := fun _ => by simp
      definition := fun _ => ⟨hopen.cons tag.name, hentry⟩
      command := fun _ => le_rfl
      commandText := fun htarget => nomatch htarget }
  | other hentry hdefinition hcommand =>
    obtain rfl := Except.ok.inj hr
    exact {
      depth := by simp; omega
      entry := fun hsome => Nat.le_succ_of_le (h.entry hsome)
      definition := fun hsome => ⟨(h.definition hsome).1.cons tag.name, (h.definition hsome).2⟩
      command := fun htarget => Nat.le_succ_of_le (h.command htarget)
      commandText := h.commandText }

theorem takeEmpty (h : s.Fits opened) {tag : Tag} (htake : s.takeEmpty tag = .ok s') :
    s'.Fits opened := by
  have hskips := s.skips_takeEmpty tag
  rw [htake] at hskips
  generalize hr : (.ok s' : Except DocumentFault Collector) = r at hskips
  cases hskips with
  | entry hdepth =>
    obtain ⟨name?, -, rfl⟩ := exists_of_map_eq_ok hr.symm
    exact h
  | definition hdepth hentry hname =>
    obtain ⟨d, -, rfl⟩ := exists_of_map_eq_ok hr.symm
    have htarget := h.target_eq_none (by omega)
    exact {
      depth := h.depth
      entry := fun _ => hdepth.ge
      definition := fun hsome => absurd hsome (by simp [htarget])
      command := fun hcommand => absurd hcommand (by simp [htarget])
      commandText := h.commandText }
  | other hentry hdefinition =>
    obtain rfl := Except.ok.inj hr
    exact h

theorem takeClosing {name : List Char} (h : s.Fits (name :: opened)) :
    (s.takeClosing name).Fits opened := by
  have hdepth' : s.depth = opened.length + 1 := h.depth
  have hcloses := s.closes_takeClosing name
  generalize s.takeClosing name = s' at hcloses
  cases hcloses with
  | entry hdepth =>
    have htarget := h.target_eq_none (by omega)
    exact {
      depth := by simp only; omega
      entry := fun hsome => nomatch hsome
      definition := fun hsome => absurd hsome (by simp [htarget])
      command := fun hcommand => absurd hcommand (by simp [htarget])
      commandText := h.commandText }
  | definition hdepth htarget hname =>
    exact {
      depth := by simp only; omega
      entry := fun _ => le_rfl
      definition := fun hsome => nomatch hsome
      command := fun hcommand => nomatch hcommand
      commandText := fun _ => rfl }
  | command hdepth htarget =>
    -- At this depth the element that is closed is not the definition itself.
    obtain ⟨hopen, hentry⟩ := h.definition (by simp [htarget])
    have hopen := hopen.of_cons.resolve_left fun hlast => by omega
    exact {
      depth := by simp only; omega
      entry := fun _ => by simp
      definition := fun _ => ⟨hopen, hentry⟩
      command := fun hcommand => nomatch hcommand
      commandText := fun htarget => nomatch htarget }
  | other hentry hdefinition hcommand =>
    exact {
      depth := by simp only; omega
      entry := fun hsome => by
        have := h.entry hsome
        simp only
        omega
      definition := fun hsome => by
        obtain ⟨hopen, hfound⟩ := h.definition hsome
        exact ⟨hopen.of_cons.resolve_left fun hlast =>
          hdefinition (by omega) hsome hlast.2, hfound⟩
      command := fun htarget => by
        have := h.command htarget
        have hne : s.depth ≠ 4 := fun hdepth => hcommand hdepth htarget
        simp only
        omega
      commandText := h.commandText }

/-- After each event a collector fits the elements that are open then. -/
theorem take (h : s.Fits opened) {event : Event} (hmoves : event.Moves opened opened')
    (htake : s.take event = .ok s') : s'.Fits opened' := by
  cases event with
  | opening tag =>
    cases hmoves
    exact h.takeOpening htake
  | empty tag =>
    cases hmoves
    exact h.takeEmpty htake
  | closing name =>
    cases hmoves
    cases htake
    exact h.takeClosing
  | text raw =>
    cases hmoves
    rw [Collector.take] at htake
    split at htake
    · cases htake
      exact h
    · split at htake
      · cases htake
      · cases htake
        exact h.takeText _
  | cdata chars =>
    cases hmoves
    cases htake
    exact h.takeText chars
  | silent =>
    cases hmoves
    cases htake
    exact h

/-- A collector fits at every place that reading comes to. -/
theorem of_reads {cs rest : List Char} {events : List Event}
    (h : Reads opened cs events opened' rest) (hs : s.Fits opened)
    (htake : events.foldlM Collector.take s = .ok s') : s'.Fits opened' := by
  induction h generalizing s with
  | nil opened cs =>
    cases htake
    exact hs
  | cons hevent _ ih =>
    rw [List.foldlM_cons] at htake
    cases hfirst : s.take _ with
    | error fault =>
      rw [hfirst] at htake
      cases htake
    | ok s₁ =>
      rw [hfirst] at htake
      exact ih (hs.take (moves_of_event hevent) hfirst) htake

end Fits

end Collector

end QueryBook.Xml
