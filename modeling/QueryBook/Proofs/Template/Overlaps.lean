import QueryBook.Proofs.Directive.Pairing
import QueryBook.Proofs.Template.Pieces

namespace QueryBook

/-!
# Directives that overlap

Each kind of directive is looked for on its own, so that those of two kinds may cross, touch or lie
in one another. The layout of a text says which of them count.

* `Directive.BeginsIn`, `Slot.PassesOver` — one directive begins inside an earlier one; a slot is
  the reason why a directive does not count.
* `Arrangement` — what it means that some of the directives of a text are arranged into slots: these
  are in order and nested, and a directive is left out exactly if a slot passes it over.
* `start_lt_inOrder` — no two directives of a text begin at one place.
* `arrangement_iff` — the layout of a text is the one arrangement of its directives.
-/

open Text (Ascending Span)

/-! ### Places of markers -/

namespace Directive

/-- Opening markers of two kinds differ in a character that both have. -/
theorem Kind.eq_of_opening {k k' : Kind} {text rest rest' : List Char}
    (h : text = k.opening ++ rest) (h' : text = k'.opening ++ rest') : k = k' := by
  subst h
  cases k <;> cases k' <;> simp [opening] at h' ⊢

/-- Every directive ends behind its start, as markers are not empty. -/
theorem start_lt_span_stop (d : Directive) : d.start < d.span.stop := by
  have := d.kind.opening_length_pos
  simp only [span, bodySpan]
  omega

/-- Directives of a text that begin at one place are of one kind. -/
theorem StandsIn.kind_eq {d e : Directive} {text : List Char} (hd : d.StandsIn text)
    (he : e.StandsIn text) (h : d.start = e.start) : d.kind = e.kind := by
  obtain ⟨body, after, hopens⟩ := hd.opensAt
  obtain ⟨body', after', hopens'⟩ := he.opensAt
  rw [h] at hopens
  simp only [List.append_assoc] at hopens hopens'
  exact Kind.eq_of_opening hopens hopens'

end Directive

/-- Two lists in ascending order with the same members are one. -/
theorem eq_of_pairwise_lt {α : Type} {f : α → Nat} {l l' : List α}
    (h : l.Pairwise fun a b => f a < f b) (h' : l'.Pairwise fun a b => f a < f b)
    (hmem : ∀ a, a ∈ l ↔ a ∈ l') : l = l' := by
  have hnodup : ∀ {l : List α}, l.Pairwise (fun a b => f a < f b) → l.Nodup := fun hl =>
    hl.imp fun hlt => ne_of_apply_ne f (Nat.ne_of_lt hlt)
  refine ((List.perm_ext_iff_of_nodup (hnodup h) (hnodup h')).2 hmem).eq_of_pairwise ?_ h h'
  exact fun a b _ _ hab hba => absurd hab (Nat.lt_asymm hba)

/-- Ranges in order that are not empty begin at ascending places. -/
theorem Text.Ascending.pairwise_start_lt {α : Type} {f : α → Directive} {start stop : Nat}
    {l : List α} (h : Ascending start stop (l.map fun a => (f a).span)) :
    l.Pairwise fun a b => (f a).start < (f b).start := by
  induction l generalizing start with
  | nil => exact .nil
  | cons a l ih =>
    obtain ⟨-, -, hrest⟩ := h
    refine .cons (fun b hb => ?_) (ih hrest)
    exact Nat.lt_of_lt_of_le (f a).start_lt_span_stop (hrest.of_mem (List.mem_map_of_mem hb)).1

/-- The directives of a kind are in the order of their starts. -/
theorem pairwise_start_lt_scan (text : List Char) (k : Directive.Kind) :
    (Directive.scan k text).Pairwise fun d e => d.start < e.start :=
  Text.Ascending.pairwise_start_lt (f := id)
    (Directive.pairing_scanFrom (Nat.zero_le text.length)).ascending

/-- No two directives of a text begin at one place. -/
theorem start_ne_all (text : List Char) :
    (extract text).all.Pairwise fun d e => d.start ≠ e.start := by
  have hscan : ∀ k, (Directive.scan k text).Pairwise fun d e => d.start ≠ e.start := fun k =>
    (pairwise_start_lt_scan text k).imp Nat.ne_of_lt
  -- No opening marker begins another one, so directives at one place are of one kind.
  have hkinds : ∀ {k k' : Directive.Kind}, k ≠ k' → ∀ d ∈ Directive.scan k text,
      ∀ e ∈ Directive.scan k' text, d.start ≠ e.start := by
    intro k k' hne d hd e he hstart
    have hkind := (Directive.standsIn_of_mem_scan hd).kind_eq (Directive.standsIn_of_mem_scan he)
      hstart
    rw [Directive.kind_of_mem_scanFrom hd, Directive.kind_of_mem_scanFrom he] at hkind
    exact hne hkind
  rw [Extraction.all, List.pairwise_append, List.pairwise_append]
  refine ⟨⟨hscan _, hscan _, hkinds (by decide)⟩, hscan _, fun d hd e he => ?_⟩
  rcases List.mem_append.1 hd with hd | hd
  · exact hkinds (by decide) d hd e he
  · exact hkinds (by decide) d hd e he

/-- No two directives of a text begin at one place. -/
theorem start_lt_inOrder (text : List Char) :
    (extract text).inOrder.Pairwise fun d e => d.start < e.start := by
  have hle : (extract text).inOrder.Pairwise fun d e => d.start ≤ e.start := by
    refine (List.pairwise_mergeSort ?_ ?_ _).imp of_decide_eq_true
    · intro a b c hab hbc
      exact decide_eq_true (Nat.le_trans (of_decide_eq_true hab) (of_decide_eq_true hbc))
    · intro a b
      simpa using Nat.le_total a.start b.start
  have hne : (extract text).inOrder.Pairwise fun d e => d.start ≠ e.start :=
    (List.mergeSort_perm _ _).symm.pairwise (start_ne_all text) fun h => h.symm
  exact (hle.and hne).imp fun h => Nat.lt_of_le_of_ne h.1 h.2

/-! ### Directives that do not count -/

/-- One directive begins inside another one, which begins before it. -/
def Directive.BeginsIn (d e : Directive) : Prop := e.start < d.start ∧ d.start < e.span.stop

/-- A slot is the reason why a directive does not count: the directive begins inside it but does not
    lie in the body of an optional one, or it lies in such a body but begins inside a child. -/
def Slot.PassesOver (s : Slot) (d : Directive) : Prop :=
  d.BeginsIn s.directive ∧ ¬ (s.directive.kind = .optional ∧ s.directive.Contains d) ∨
    (s.directive.kind = .optional ∧ s.directive.Contains d) ∧ ∃ c ∈ s.children, d.BeginsIn c

/-- Some of the directives of a text are arranged into slots. -/
structure Arrangement (text : List Char) (slots : List Slot) : Prop where
  found : ∀ d ∈ slots.flatMap Slot.all, d ∈ (extract text).all
  /-- No directive counts twice. -/
  nodup : (slots.flatMap Slot.all).Nodup
  ascending : Ascending 0 text.length (slots.map (·.directive.span))
  /-- Children are inside the body and in order. -/
  nested : ∀ s ∈ slots, s.Nested
  optional_of_children : ∀ s ∈ slots, s.children ≠ [] → s.directive.kind = .optional
  /-- So a child has no children in its turn. -/
  inner : ∀ s ∈ slots, ∀ c ∈ s.children, c.kind ≠ .optional
  /-- What is left out is what a slot passes over. -/
  leftOut : ∀ d ∈ (extract text).all,
    d ∉ slots.flatMap Slot.all ↔ ∃ s ∈ slots, s.PassesOver d

variable {text : List Char} {slots : List Slot} {d e : Directive} {s : Slot}

/-- A directive begins before those that it contains. -/
theorem Directive.Contains.start_lt (h : d.Contains e) : d.start < e.start := by
  have := d.kind.opening_length_pos
  have hstart : d.start + d.kind.opening.length ≤ e.start := h.1
  omega

/-- What a directive contains lies in its range. -/
theorem Directive.Contains.within (h : d.Contains e) : e.span.Within d.span :=
  Span.Within.trans h d.bodySpan_within

/-- No place is inside two ranges that are apart. -/
theorem Text.Span.Apart.absurd_of_mem {s t : Span} (h : s.Apart t) {place : Nat}
    (hs : s.start ≤ place ∧ place < s.stop) (ht : t.start ≤ place ∧ place < t.stop) : False := by
  unfold Span.Apart Span.Before at h
  omega

/-- What a directive contains begins in it. -/
theorem Directive.BeginsIn.of_contains (h : d.Contains e) : e.BeginsIn d :=
  ⟨h.start_lt, Nat.lt_of_lt_of_le e.start_lt_span_stop h.within.2⟩

/-- A slot passes over what begins inside it. -/
theorem Slot.PassesOver.beginsIn (h : s.PassesOver d) : d.BeginsIn s.directive := by
  rcases h with ⟨h, -⟩ | ⟨⟨-, h⟩, -⟩
  · exact h
  · exact .of_contains h

/-- A child lies in the body of its slot. -/
theorem Slot.Nested.contains (h : s.Nested) (hd : d ∈ s.children) : s.directive.Contains d := by
  have hspan := h.of_mem (List.mem_map_of_mem hd)
  exact ⟨hspan.1, hspan.2.2⟩

/-- Children are in the order of their places. -/
theorem Slot.Nested.pairwise_start_lt_children (h : s.Nested) :
    s.children.Pairwise fun d e => d.start < e.start :=
  Text.Ascending.pairwise_start_lt (f := id) h

/-- A directive of the slot begins inside it. -/
theorem Slot.Nested.start_mem (h : s.Nested) (hd : d ∈ s.all) :
    s.directive.start ≤ d.start ∧ d.start < s.directive.span.stop := by
  rcases List.mem_cons.1 hd with rfl | hd
  · exact ⟨Nat.le_refl _, s.directive.start_lt_span_stop⟩
  · have hbegins := Directive.BeginsIn.of_contains (h.contains hd)
    exact ⟨Nat.le_of_lt hbegins.1, hbegins.2⟩

/-- A place is in one slot at most. -/
theorem Text.Ascending.slot_eq {start stop : Nat} {s t : Slot}
    (h : Ascending start stop (slots.map (·.directive.span))) (hs : s ∈ slots) (ht : t ∈ slots)
    {place : Nat} (hplace : s.directive.start ≤ place ∧ place < s.directive.span.stop)
    (hplace' : t.directive.start ≤ place ∧ place < t.directive.span.stop) : s = t :=
  (h.apart hs ht).resolve_right fun hapart => hapart.absurd_of_mem hplace hplace'

/-- What a slot passes over counts nowhere. -/
theorem not_mem_of_passesOver {start stop : Nat}
    (hspans : Ascending start stop (slots.map (·.directive.span)))
    (hnested : ∀ s ∈ slots, s.Nested)
    (hoptional : ∀ s ∈ slots, s.children ≠ [] → s.directive.kind = .optional)
    (hs : s ∈ slots) (hd : s.PassesOver d) : d ∉ slots.flatMap Slot.all := by
  intro hmem
  obtain ⟨t, ht, hmem⟩ := List.mem_flatMap.1 hmem
  have hbegins := hd.beginsIn
  obtain rfl : s = t := hspans.slot_eq hs ht ⟨Nat.le_of_lt hbegins.1, hbegins.2⟩
    ((hnested t ht).start_mem hmem)
  rcases List.mem_cons.1 hmem with rfl | hchild
  · exact Nat.lt_irrefl _ hbegins.1
  · rcases hd with ⟨-, hnot⟩ | ⟨-, c, hc, hbegins⟩
    · exact hnot ⟨hoptional s hs (List.ne_nil_of_mem hchild), (hnested s hs).contains hchild⟩
    · rcases (hnested s hs).apart hc hchild with rfl | hapart
      · exact Nat.lt_irrefl _ hbegins.1
      · exact hapart.absurd_of_mem ⟨Nat.le_of_lt hbegins.1, hbegins.2⟩
          ⟨Nat.le_refl _, d.start_lt_span_stop⟩

/-! ### The layout is an arrangement -/

variable {current : Slot} {ds : List Directive}

/-- The slot that is being filled comes first and keeps its children. -/
theorem arrange_eq_cons (current : Slot) (ds : List Directive) : ∃ more rest,
    arrange current ds = ⟨current.directive, current.children ++ more⟩ :: rest := by
  induction ds generalizing current with
  | nil => exact ⟨[], [], by simp [arrange]⟩
  | cons d ds ih =>
    rw [arrange]
    split
    · obtain ⟨more, rest, hmore⟩ := ih (current.add d)
      exact ⟨d :: more, rest, by simpa [Slot.add] using hmore⟩
    · split
      · exact ih current
      · exact ⟨[], arrange ⟨d, []⟩ ds, by simp⟩

/-- What is in the slot that is being filled stays there. -/
theorem mem_flatMap_all_arrange (ds : List Directive) (hd : d ∈ current.all) :
    d ∈ (arrange current ds).flatMap Slot.all := by
  obtain ⟨more, rest, hmore⟩ := arrange_eq_cons current ds
  rw [hmore, List.flatMap_cons]
  refine List.mem_append_left _ ?_
  rw [Slot.all, List.mem_cons] at hd ⊢
  exact hd.imp_right (List.mem_append_left more)

/-- Directives keep their order in the slots. -/
theorem flatMap_all_arrange_sublist (current : Slot) (ds : List Directive) :
    ((arrange current ds).flatMap Slot.all).Sublist (current.all ++ ds) := by
  induction ds generalizing current with
  | nil => simp [arrange]
  | cons d ds ih =>
    rw [arrange]
    split
    · have hadd : (current.add d).all ++ ds = current.all ++ d :: ds := by
        simp [Slot.all, Slot.add]
      exact hadd ▸ ih (current.add d)
    · split
      · exact (ih current).trans ((List.sublist_cons_self d ds).append_left _)
      · rw [List.flatMap_cons]
        exact (ih ⟨d, []⟩).append_left _

/-- The directives that count are some of those of the text, in their order. -/
theorem flatMap_all_layout_sublist (text : List Char) :
    (keptDirectives text).Sublist (extract text).inOrder := by
  rw [keptDirectives, layout]
  cases (extract text).inOrder with
  | nil => exact List.Sublist.refl _
  | cons d ds => exact flatMap_all_arrange_sublist ⟨d, []⟩ ds

/-- A slot passes over what begins inside it and does not become a child. -/
theorem Slot.passesOver_of_not_admits (hall : ∀ c ∈ s.all, c.start < d.start)
    (hinside : d.start < s.directive.span.stop) (hadmits : ¬ s.admits d = true) :
    s.PassesOver d := by
  by_cases hbody : s.directive.kind = .optional ∧ s.directive.Contains d
  · -- It is in the body, so that it begins before the end of the last child.
    have hlast : d.start < s.childrenStop := by simpa [Slot.admits, hbody] using hadmits
    rw [Slot.childrenStop] at hlast
    cases hc : s.children.getLast? with
    | none => simp [hc] at hlast
    | some c =>
      have hmem := List.mem_of_getLast? hc
      rw [hc, Option.map_some, Option.getD_some] at hlast
      exact .inr ⟨hbody, c, hmem, hall c (List.mem_cons_of_mem _ hmem), hlast⟩
  · exact .inl ⟨⟨hall _ List.mem_cons_self, hinside⟩, hbody⟩

/-- Further children do not matter for what a slot passes over. -/
theorem Slot.PassesOver.append (h : s.PassesOver d) (more : List Directive) :
    Slot.PassesOver ⟨s.directive, s.children ++ more⟩ d := by
  rcases h with h | ⟨hbody, c, hc, hbegins⟩
  · exact .inl h
  · exact .inr ⟨hbody, c, List.mem_append_left more hc, hbegins⟩

/-- A directive that is not arranged is passed over by the slot which is being filled when its turn
    comes. -/
theorem exists_passesOver_of_not_mem (hds : ds.Pairwise fun d e => d.start < e.start)
    (hcurrent : ∀ e ∈ current.all, ∀ d ∈ ds, e.start < d.start) (hd : d ∈ ds)
    (hnot : d ∉ (arrange current ds).flatMap Slot.all) :
    ∃ s ∈ arrange current ds, s.PassesOver d := by
  induction ds generalizing current with
  | nil => exact absurd hd List.not_mem_nil
  | cons e ds ih =>
    obtain ⟨hfirst, hrest⟩ := List.pairwise_cons.1 hds
    have hbefore : ∀ c ∈ current.all, c.start < e.start := fun c hc =>
      hcurrent c hc e List.mem_cons_self
    have hbehind : ∀ c ∈ current.all, ∀ d ∈ ds, c.start < d.start := fun c hc d hd =>
      hcurrent c hc d (List.mem_cons_of_mem e hd)
    -- By what becomes of the next one: it is admitted, passed over, or opens a slot.
    rw [arrange] at hnot ⊢
    split at hnot
    · next hadmits =>
      rw [if_pos hadmits]
      rcases List.mem_cons.1 hd with rfl | hd
      · exact absurd (mem_flatMap_all_arrange ds (by simp [Slot.all, Slot.add])) hnot
      · refine ih hrest (fun c hc => ?_) hd hnot
        rw [Slot.all, Slot.add, List.mem_cons, List.mem_append, List.mem_singleton] at hc
        rcases hc with rfl | hc | rfl
        · exact hbehind _ List.mem_cons_self
        · exact hbehind c (List.mem_cons_of_mem _ hc)
        · exact hfirst
    · next hadmits =>
      rw [if_neg hadmits]
      split at hnot
      · next hinside =>
        rw [if_pos hinside]
        rcases List.mem_cons.1 hd with rfl | hd
        · obtain ⟨more, rest, hmore⟩ := arrange_eq_cons current ds
          refine ⟨_, hmore ▸ List.mem_cons_self, Slot.PassesOver.append ?_ more⟩
          exact Slot.passesOver_of_not_admits hbefore hinside hadmits
        · exact ih hrest hbehind hd hnot
      · next hinside =>
        rw [if_neg hinside]
        rw [List.flatMap_cons, List.mem_append, not_or] at hnot
        rcases List.mem_cons.1 hd with rfl | hd
        · exact absurd (mem_flatMap_all_arrange ds List.mem_cons_self) hnot.2
        · have hnew : ∀ c ∈ Slot.all ⟨e, []⟩, ∀ d ∈ ds, c.start < d.start := by
            intro c hc
            rw [Slot.all, List.mem_singleton] at hc
            exact hc ▸ hfirst
          obtain ⟨s, hs, hpasses⟩ := ih hrest hnew hd hnot.2
          exact ⟨s, List.mem_cons_of_mem _ hs, hpasses⟩

/-- Optional directives do not lie in one another, so that only those at the top can have
    children. -/
theorem kind_ne_optional_of_child (hs : s ∈ layout text) (hd : d ∈ s.children) :
    d.kind ≠ .optional := by
  intro hkind
  have hslot : s.directive.kind = .optional :=
    (children_of_mem_layout hs).resolve_left (List.ne_nil_of_mem hd)
  have hmem := Extraction.mem_of_mem_all
    (mem_all_of_mem_layout hs (List.mem_cons_of_mem s.directive hd))
  have hmem' := Extraction.mem_of_mem_all (mem_all_of_mem_layout hs List.mem_cons_self)
  rw [hkind] at hmem
  rw [hslot] at hmem'
  have hbegins := Directive.BeginsIn.of_contains ((nested_of_mem_layout hs).contains hd)
  have hspans := (Directive.pairing_scanFrom (k := .optional) (Nat.zero_le text.length)).ascending
  -- Two directives of one kind are one or lie apart, but this one begins in its slot.
  rcases hspans.apart hmem hmem' with rfl | hapart
  · exact Nat.lt_irrefl _ hbegins.1
  · exact hapart.absurd_of_mem ⟨Nat.le_refl _, d.start_lt_span_stop⟩
      ⟨Nat.le_of_lt hbegins.1, hbegins.2⟩

/-- The layout of a text is an arrangement of its directives. -/
theorem arrangement_layout (text : List Char) : Arrangement text (layout text) := by
  have hsublist := flatMap_all_layout_sublist text
  have hnodup : (extract text).inOrder.Nodup :=
    (start_lt_inOrder text).imp fun hlt => ne_of_apply_ne Directive.start (Nat.ne_of_lt hlt)
  refine ⟨fun d hd => mem_inOrder_iff.1 (hsublist.subset hd), hnodup.sublist hsublist,
    ascending_layout text, fun s hs => nested_of_mem_layout hs,
    fun s hs => (children_of_mem_layout hs).resolve_left,
    fun s hs c hc => kind_ne_optional_of_child hs hc, fun d hd => ⟨fun hnot => ?_, ?_⟩⟩
  · have hsorted := start_lt_inOrder text
    have hd := mem_inOrder_iff.2 hd
    rw [layout] at hnot ⊢
    cases horder : (extract text).inOrder with
    | nil => simp [horder] at hd
    | cons e ds =>
      rw [horder] at hsorted hd hnot
      obtain ⟨hfirst, hrest⟩ := List.pairwise_cons.1 hsorted
      rcases List.mem_cons.1 hd with rfl | hd
      · exact absurd (mem_flatMap_all_arrange ds List.mem_cons_self) hnot
      · refine exists_passesOver_of_not_mem hrest (fun c hc => ?_) hd hnot
        rw [Slot.all, List.mem_singleton] at hc
        exact hc ▸ hfirst
  · rintro ⟨s, hs, hpasses⟩
    exact not_mem_of_passesOver (ascending_layout text) (fun s hs => nested_of_mem_layout hs)
      (fun s hs => (children_of_mem_layout hs).resolve_left) hs hpasses

/-! ### There is no other arrangement -/

/-- The directive is the own one of a slot. -/
def IsTop (slots : List Slot) (d : Directive) : Prop := ∃ s ∈ slots, s.directive = d

/-- The directive is a child in the slot of another one. -/
def IsChild (slots : List Slot) (d e : Directive) : Prop :=
  ∃ s ∈ slots, s.directive = e ∧ d ∈ s.children

/-- A directive counts at the top, or inside another one. -/
theorem mem_flatMap_all_iff :
    d ∈ slots.flatMap Slot.all ↔ IsTop slots d ∨ ∃ e, IsChild slots d e := by
  simp only [List.mem_flatMap, Slot.all, List.mem_cons]
  constructor
  · rintro ⟨s, hs, rfl | hd⟩
    · exact .inl ⟨s, hs, rfl⟩
    · exact .inr ⟨_, s, hs, rfl, hd⟩
  · rintro (⟨s, hs, rfl⟩ | ⟨e, s, hs, rfl, hd⟩)
    · exact ⟨s, hs, .inl rfl⟩
    · exact ⟨s, hs, .inr hd⟩

variable {slots' : List Slot}

/-- Two arrangements treat a directive in the same way. -/
def TreatAlike (slots slots' : List Slot) (d : Directive) : Prop :=
  (IsTop slots d ↔ IsTop slots' d) ∧ ∀ e, IsChild slots d e ↔ IsChild slots' d e

/-- To be treated alike goes both ways. -/
theorem TreatAlike.symm (h : TreatAlike slots slots' d) : TreatAlike slots' slots d :=
  ⟨h.1.symm, fun e => (h.2 e).symm⟩

/-- What one arrangement passes over, so does another one that treats what comes before alike. -/
theorem exists_passesOver_of_alike (hbefore : ∀ e, e.start < d.start → TreatAlike slots slots' e)
    (hd : ∃ s ∈ slots, s.PassesOver d) : ∃ s ∈ slots', s.PassesOver d := by
  obtain ⟨s, hs, hpasses⟩ := hd
  rcases hpasses with ⟨hbegins, hnot⟩ | ⟨hbody, c, hc, hbegins⟩
  · obtain ⟨t, ht, hst⟩ := (hbefore s.directive hbegins.1).1.1 ⟨s, hs, rfl⟩
    exact ⟨t, ht, .inl (hst ▸ ⟨hbegins, hnot⟩)⟩
  · obtain ⟨t, ht, hst, hct⟩ := ((hbefore c hbegins.1).2 s.directive).1 ⟨s, hs, rfl, hc⟩
    exact ⟨t, ht, .inr ⟨hst ▸ hbody, c, hct, hbegins⟩⟩

namespace Arrangement

/-- A directive contains those that count inside it. -/
theorem contains_of_isChild (h : Arrangement text slots) (hd : IsChild slots d e) :
    e.Contains d := by
  obtain ⟨s, hs, rfl, hd⟩ := hd
  exact (h.nested s hs).contains hd

/-- Slots with one directive are one slot. -/
theorem slot_eq (h : Arrangement text slots) {s t : Slot} (hs : s ∈ slots) (ht : t ∈ slots)
    (hst : s.directive = t.directive) : s = t := by
  have hplace := s.directive.start_lt_span_stop
  refine h.ascending.slot_eq hs ht ⟨Nat.le_refl _, hplace⟩ ?_
  rw [← hst]
  exact ⟨Nat.le_refl _, hplace⟩

/-- No slot is inside another one. -/
theorem not_contains {o : Directive} (h : Arrangement text slots) (hd : IsTop slots d)
    (ho : IsTop slots o) : ¬ o.Contains d := by
  obtain ⟨s, hs, rfl⟩ := hd
  obtain ⟨t, ht, rfl⟩ := ho
  intro hcontains
  have hbegins := Directive.BeginsIn.of_contains hcontains
  obtain rfl := h.ascending.slot_eq hs ht ⟨Nat.le_refl _, s.directive.start_lt_span_stop⟩
    ⟨Nat.le_of_lt hbegins.1, hbegins.2⟩
  exact Nat.lt_irrefl _ hbegins.1

/-- A directive lies in one slot at most. -/
theorem eq_of_contains {o o' : Directive} (h : Arrangement text slots) (ho : IsTop slots o)
    (ho' : IsTop slots o') (hd : o.Contains d) (hd' : o'.Contains d) : o = o' := by
  obtain ⟨s, hs, rfl⟩ := ho
  obtain ⟨t, ht, rfl⟩ := ho'
  have hbegins := Directive.BeginsIn.of_contains hd
  have hbegins' := Directive.BeginsIn.of_contains hd'
  rw [h.ascending.slot_eq hs ht ⟨Nat.le_of_lt hbegins.1, hbegins.2⟩
    ⟨Nat.le_of_lt hbegins'.1, hbegins'.2⟩]

/-- Where two arrangements treat all that comes before alike, both have the same directives. -/
theorem mem_of_alike (h : Arrangement text slots) (h' : Arrangement text slots')
    (hbefore : ∀ e, e.start < d.start → TreatAlike slots slots' e)
    (hd : d ∈ slots.flatMap Slot.all) : d ∈ slots'.flatMap Slot.all := by
  have hfound := h.found d hd
  by_contra hnot
  refine (h.leftOut d hfound).2 ?_ hd
  exact exists_passesOver_of_alike (fun e he => (hbefore e he).symm) ((h'.leftOut d hfound).1 hnot)

/-- A directive at the top of one arrangement is at the top of another one that treats the earlier
    directives alike. -/
theorem isTop_of_alike (h : Arrangement text slots) (h' : Arrangement text slots')
    (hbefore : ∀ e, e.start < d.start → TreatAlike slots slots' e) (hd : IsTop slots d) :
    IsTop slots' d := by
  have hmem := h.mem_of_alike h' hbefore (mem_flatMap_all_iff.2 (.inl hd))
  refine (mem_flatMap_all_iff.1 hmem).resolve_right ?_
  rintro ⟨o, ho⟩
  have hcontains := h'.contains_of_isChild ho
  obtain ⟨s, hs, rfl, -⟩ := ho
  exact h.not_contains hd ((hbefore _ hcontains.start_lt).1.2 ⟨s, hs, rfl⟩) hcontains

/-- A directive inside another one is inside it in an arrangement that treats the earlier directives
    alike. -/
theorem isChild_of_alike (h : Arrangement text slots) (h' : Arrangement text slots')
    (hbefore : ∀ e, e.start < d.start → TreatAlike slots slots' e) (hd : IsChild slots d e) :
    IsChild slots' d e := by
  have hcontains := h.contains_of_isChild hd
  have hmem := h.mem_of_alike h' hbefore (mem_flatMap_all_iff.2 (.inr ⟨e, hd⟩))
  obtain ⟨s, hs, rfl, -⟩ := hd
  have htop : IsTop slots' s.directive := (hbefore _ hcontains.start_lt).1.1 ⟨s, hs, rfl⟩
  rcases mem_flatMap_all_iff.1 hmem with hd' | ⟨o, ho⟩
  · exact absurd hcontains (h'.not_contains hd' htop)
  · have hcontains' := h'.contains_of_isChild ho
    have htop' : IsTop slots' o := by
      obtain ⟨t, ht, rfl, -⟩ := ho
      exact ⟨t, ht, rfl⟩
    exact h'.eq_of_contains htop' htop hcontains' hcontains ▸ ho

/-- By their places from left to right, two arrangements treat every directive alike. -/
theorem treatAlike (h : Arrangement text slots) (h' : Arrangement text slots') (d : Directive) :
    TreatAlike slots slots' d := by
  induction hstart : d.start using Nat.strongRecOn generalizing d with
  | ind place ih =>
    subst hstart
    have hbefore : ∀ e, e.start < d.start → TreatAlike slots slots' e := fun e he =>
      ih e.start he e rfl
    have hbefore' : ∀ e, e.start < d.start → TreatAlike slots' slots e := fun e he =>
      (hbefore e he).symm
    exact ⟨⟨h.isTop_of_alike h' hbefore, h'.isTop_of_alike h hbefore'⟩,
      fun e => ⟨h.isChild_of_alike h' hbefore, h'.isChild_of_alike h hbefore'⟩⟩

/-- Two arrangements of a text have the same slots. -/
theorem mem_of_mem (h : Arrangement text slots) (h' : Arrangement text slots') (hs : s ∈ slots) :
    s ∈ slots' := by
  obtain ⟨t, ht, hst⟩ := (h.treatAlike h' s.directive).1.1 ⟨s, hs, rfl⟩
  -- Both arrangements leave out the same directives, so the two slots have the same children.
  have hchildren : s.children = t.children := by
    refine eq_of_pairwise_lt (h.nested s hs).pairwise_start_lt_children
      (h'.nested t ht).pairwise_start_lt_children fun d => ?_
    have halike := (h.treatAlike h' d).2 s.directive
    constructor
    · intro hd
      obtain ⟨u, hu, hus, hd⟩ := halike.1 ⟨s, hs, rfl, hd⟩
      exact h'.slot_eq hu ht (hus.trans hst.symm) ▸ hd
    · intro hd
      obtain ⟨u, hu, hus, hd⟩ := halike.2 ⟨t, ht, hst, hd⟩
      exact h.slot_eq hu hs hus ▸ hd
  have heq : s = t := by
    cases s
    cases t
    simp only at hst hchildren
    rw [hst, hchildren]
  exact heq ▸ ht

/-- The slots of an arrangement are in order. -/
theorem pairwise_start_lt (h : Arrangement text slots) :
    slots.Pairwise fun s t => s.directive.start < t.directive.start :=
  h.ascending.pairwise_start_lt

/-- There is one arrangement at most. -/
theorem unique (h : Arrangement text slots) (h' : Arrangement text slots') : slots = slots' :=
  eq_of_pairwise_lt h.pairwise_start_lt h'.pairwise_start_lt fun _ =>
    ⟨h.mem_of_mem h', h'.mem_of_mem h⟩

end Arrangement

/-- **The layout of a text is the one arrangement of its directives.** Its slots are in order, with
    their children inside the bodies of optional ones and in order there; no directive counts twice;
    and a directive does not count exactly if it begins inside an earlier slot without lying in the
    body of an optional one, or lies in such a body and begins inside an earlier child. -/
theorem arrangement_iff (text : List Char) (slots : List Slot) :
    Arrangement text slots ↔ slots = layout text :=
  ⟨fun h => h.unique (arrangement_layout text), fun h => h ▸ arrangement_layout text⟩

/-- A literal directive that begins in the body of an optional one and ends behind it stays text. -/
example : (keptDirectives "<%=a=@a <R%=@b%>%R> @@c=@c@@".toList).map Directive.marker =
    ["<%=a=@a <R%=@b%>".toList, "@@c=@c@@".toList] := by
  rw [keptDirectives, layout_of_pairwise (by decide +kernel)]
  decide +kernel

end QueryBook
