import QueryBook.Proofs.Directive.Pairing
import QueryBook.Proofs.Template.Replacement

namespace QueryBook

/-!
# The own pieces of a rendered text

Of the pieces that make up the text for a call some are the template's own text, others are spliced.
Own pieces are exactly the ranges of the template's text that the call keeps.

* `Directive.pieces_cases` — what the pieces of a directive are.
* `Piece.ownOf` — the own pieces of a row of pieces; the names come from them (`namesOf_eq`).
* `Directive.Stays`, `Template.Keeps` — the ranges of its text that a template keeps for a call,
  said of the layout alone; `Template.RefersTo` — the names in them.
* `Template.mem_ownOf_iff` — the own pieces are the texts of these ranges, all of them and no more.
* `Template.Keeps.apart` — no literal directive that counts overlaps such a range.
-/

open Text (Ascending Span)

/-! ### Ranges that do not overlap -/

/-- One of two ranges stands behind the other. -/
def Text.Span.Apart (s t : Span) : Prop := s.Before t ∨ t.Before s

/-- Ranges in ranges that are apart are apart. -/
theorem Text.Span.Apart.mono {s s' t t' : Span} (h : s.Apart t) (hs : s'.Within s)
    (ht : t'.Within t) : s'.Apart t' := by
  obtain ⟨hsstart, hsstop⟩ := hs
  obtain ⟨htstart, htstop⟩ := ht
  unfold Span.Apart Span.Before at h ⊢
  omega

theorem Text.Span.Within.refl (s : Span) : s.Within s := ⟨Nat.le_refl _, Nat.le_refl _⟩

theorem Text.Span.Within.trans {s t u : Span} (h : s.Within t) (h' : t.Within u) : s.Within u :=
  ⟨Nat.le_trans h'.1 h.1, Nat.le_trans h.2 h'.2⟩

/-- The ranges of two items in order are apart, unless the items are the same. -/
theorem Text.Ascending.apart {α : Type} {f : α → Span} {start stop : Nat} {l : List α}
    (h : Ascending start stop (l.map f)) {a b : α} (ha : a ∈ l) (hb : b ∈ l) :
    a = b ∨ (f a).Apart (f b) := by
  induction l generalizing start with
  | nil => exact absurd ha List.not_mem_nil
  | cons c l ih =>
    obtain ⟨-, -, hrest⟩ := h
    have hbehind : ∀ d ∈ l, (f c).Before (f d) := fun d hd =>
      (hrest.of_mem (List.mem_map_of_mem hd)).1
    rcases List.mem_cons.1 ha with rfl | ha'
    · rcases List.mem_cons.1 hb with rfl | hb'
      · exact .inl rfl
      · exact .inr (.inl (hbehind b hb'))
    · rcases List.mem_cons.1 hb with rfl | hb'
      · exact .inr (.inr (hbehind a ha'))
      · exact ih hrest ha' hb'

/-- What lies between ranges in order is apart from all of them. -/
theorem Text.Ascending.apart_gap {start stop : Nat} {spans : List Span}
    (h : Ascending start stop spans) {gap : Span} (hgap : gap ∈ Text.gaps start stop spans) :
    gap.Within ⟨start, stop⟩ ∧ ∀ s ∈ spans, gap.Apart s := by
  induction spans generalizing start with
  | nil =>
    rw [Text.gaps, List.mem_singleton] at hgap
    subst hgap
    exact ⟨Span.Within.refl _, fun s hs => absurd hs List.not_mem_nil⟩
  | cons s spans ih =>
    obtain ⟨hstart, hle, hrest⟩ := h
    rw [Text.gaps, List.mem_cons] at hgap
    -- The gap in front of the first span, or one behind it.
    rcases hgap with rfl | hgap
    · refine ⟨⟨Nat.le_refl _, Nat.le_trans hle hrest.le⟩, fun t ht => .inl ?_⟩
      rcases List.mem_cons.1 ht with rfl | ht
      · exact Nat.le_refl _
      · exact Nat.le_trans hle (hrest.of_mem ht).1
    · obtain ⟨hwithin, hapart⟩ := ih hrest hgap
      refine ⟨⟨Nat.le_trans hstart (Nat.le_trans hle hwithin.1), hwithin.2⟩, fun t ht => ?_⟩
      rcases List.mem_cons.1 ht with rfl | ht
      · exact .inr hwithin.1
      · exact hapart t ht

namespace Directive

variable {d : Directive} {p : Parameters}

/-- The body of a directive lies in its range. -/
theorem bodySpan_within (d : Directive) : d.bodySpan.Within d.span := by
  simp only [Span.Within, span, bodySpan]
  omega

/-- What the pieces of a directive are. -/
theorem pieces_cases {body : Except Error (List Piece)} {dialect : Dialect} {ps : List Piece}
    (h : d.pieces body dialect p = .ok ps) :
    match d.kind with
    | .parameter => ps = [.own d.body]
    | .literal => ∃ new, ps = [.spliced new]
    | .optional =>
      p.allPresent d.names = true ∧ body = .ok ps ∨ p.allPresent d.names = false ∧ ps = [] := by
  unfold Directive.pieces Kind.render at h
  cases hnames : (referencedNames d.body).isEmpty with
  | true =>
    simp only [hnames] at h
    cases h
  | false =>
    simp only [hnames] at h
    cases hkind : d.kind with
    | parameter =>
      simp only [hkind] at h
      cases h
      rfl
    | literal =>
      simp only [hkind] at h
      cases h
      exact ⟨_, rfl⟩
    | optional =>
      simp only [hkind] at h
      show p.allPresent (referencedNames d.body) = true ∧ _ ∨
        p.allPresent (referencedNames d.body) = false ∧ _
      cases hpresent : p.allPresent (referencedNames d.body) with
      | true =>
        -- A body that refers to a name is not empty.
        have hne : d.body.isEmpty = false := by
          rw [List.isEmpty_eq_false_iff]
          intro hnil
          rw [hnil] at hnames
          exact absurd hnames (by decide)
        refine .inl ⟨rfl, ?_⟩
        simpa [hpresent, hne, bind, Except.bind] using h
      | false =>
        refine .inr ⟨rfl, ?_⟩
        simpa [hpresent, bind, Except.bind] using h

end Directive

/-! ### Own pieces -/

namespace Piece

/-- The text of an own piece. -/
def own? : Piece → Option (List Char)
  | own t => some t
  | spliced _ => none

/-- The own pieces of a row of pieces. -/
def ownOf (ps : List Piece) : List (List Char) := ps.filterMap own?

@[simp] theorem ownOf_own_cons (x : List Char) (ps : List Piece) :
    ownOf (.own x :: ps) = x :: ownOf ps := rfl

@[simp] theorem ownOf_append (ps qs : List Piece) : ownOf (ps ++ qs) = ownOf ps ++ ownOf qs :=
  List.filterMap_append

theorem mem_ownOf {ps : List Piece} {x : List Char} : x ∈ ownOf ps ↔ .own x ∈ ps := by
  rw [ownOf, List.mem_filterMap]
  constructor
  · rintro ⟨piece, hpiece, hx⟩
    cases piece with
    | own t =>
      cases hx
      exact hpiece
    | spliced t => cases hx
  · exact fun hx => ⟨.own x, hx, rfl⟩

/-- The names of a row of pieces are those of its own pieces. -/
theorem namesOf_eq (ps : List Piece) :
    namesOf ps = ((ownOf ps).flatMap referencedNames).eraseDups := by
  have hnames : ps.flatMap names = (ownOf ps).flatMap referencedNames := by
    induction ps with
    | nil => rfl
    | cons piece ps ih =>
      rw [List.flatMap_cons, ih]
      cases piece with
      | own t => rfl
      | spliced t => rfl
  rw [namesOf, hnames]

/-- A name of pieces is one of an own piece. -/
theorem mem_namesOf {ps : List Piece} {n : String} :
    n ∈ namesOf ps ↔ ∃ x ∈ ownOf ps, n ∈ referencedNames x := by
  rw [namesOf_eq, List.mem_eraseDups, List.mem_flatMap]

end Piece

/-- Two steps that succeed, one by one. -/
theorem exists_of_bind_eq_ok {ε α β : Type} {x : Except ε α} {f : α → Except ε β} {b : β}
    (h : x >>= f = .ok b) : ∃ a, x = .ok a ∧ f a = .ok b := by
  cases x with
  | error e => cases h
  | ok a => exact ⟨a, rfl, h⟩

/-- A pass over a list that succeeds, step by step. -/
theorem forall₂_of_mapM_ok {ε α β : Type} {f : α → Except ε β} {l : List α} {bs : List β}
    (h : l.mapM f = .ok bs) : List.Forall₂ (fun a b => f a = .ok b) l bs := by
  induction l generalizing bs with
  | nil =>
    cases h
    exact .nil
  | cons a l ih =>
    rw [List.mapM_cons] at h
    obtain ⟨b, hb, h⟩ := exists_of_bind_eq_ok h
    obtain ⟨bs', hbs', h⟩ := exists_of_bind_eq_ok h
    cases h
    exact .cons hb (ih hbs')

/-- The results of two passes over a list are related if those of their steps are. -/
theorem forall₂_of_steps {α β : Type} {F G : α → β → Prop} {R : β → β → Prop} {l : List α}
    {bs cs : List β} (hF : List.Forall₂ F l bs) (hG : List.Forall₂ G l cs)
    (h : ∀ a ∈ l, ∀ b c, F a b → G a c → R b c) : List.Forall₂ R bs cs := by
  induction hF generalizing cs with
  | nil =>
    cases hG
    exact .nil
  | @cons a b l bs hb hbs ih =>
    cases hG with
    | cons hc hcs =>
      exact .cons (h a List.mem_cons_self b _ hb hc)
        (ih hcs fun a' ha' => h a' (List.mem_cons_of_mem a ha'))

/-- The rendered items of a range: each is rendered, and the results stand in their places. -/
theorem exists_rendered {α : Type} {directive : α → Directive}
    {pieces : α → Except Error (List Piece)} {text : List Char} {cursor stop : Nat}
    {items : List α} {ps : List Piece}
    (h : (do
      let rendered ← items.mapM fun a => do .ok (directive a, ← pieces a)
      .ok (interleave text cursor stop rendered)) = Except.ok (ε := Error) ps) :
    ∃ rendered, ps = interleave text cursor stop rendered ∧
      List.Forall₂ (fun a r => r.1 = directive a ∧ pieces a = .ok r.2) items rendered := by
  obtain ⟨rendered, hrendered, h⟩ := exists_of_bind_eq_ok h
  cases h
  refine ⟨rendered, rfl, (forall₂_of_mapM_ok hrendered).imp ?_⟩
  intro a r hr
  obtain ⟨ps, hps, hr⟩ := exists_of_bind_eq_ok hr
  cases hr
  exact ⟨rfl, hps⟩

/-- The own pieces of a range do not depend on what is spliced in between. -/
theorem ownOf_interleave {text : List Char} {cursor stop : Nat}
    {l l' : List (Directive × List Piece)}
    (h : List.Forall₂ (fun r r' => r.1 = r'.1 ∧ Piece.ownOf r.2 = Piece.ownOf r'.2) l l') :
    Piece.ownOf (interleave text cursor stop l) = Piece.ownOf (interleave text cursor stop l') := by
  induction h generalizing cursor with
  | nil => rfl
  | @cons r r' l l' hr hmore ih =>
    obtain ⟨d, ps⟩ := r
    obtain ⟨d', ps'⟩ := r'
    obtain ⟨rfl, hps⟩ := hr
    have hstep : ∀ qs more, Piece.ownOf (interleave text cursor stop ((d, qs) :: more)) =
        Span.slice ⟨cursor, d.start⟩ text ::
          (Piece.ownOf qs ++ Piece.ownOf (interleave text d.span.stop stop more)) := by
      intro qs more
      rw [interleave, Piece.ownOf_own_cons, Piece.ownOf_append]
    rw [hstep, hstep, ih, show Piece.ownOf ps = Piece.ownOf ps' from hps]

/-! ### Ranges that are kept -/

variable {p : Parameters}

/-- The body of a directive is kept, but for the children in it: that of a parameter directive for
    every call, that of an optional one if all names in it are present. -/
def Directive.Stays (p : Parameters) (d : Directive) : Prop :=
  match d.kind with
  | .parameter => True
  | .literal => False
  | .optional => ∀ n ∈ d.names, p.isPresent n = true

/-- The ranges of its text that a template keeps for a call: what stands outside of all slots, what
    stands outside of all children in the body of a slot that is kept, and the bodies of those of
    its children that are kept. -/
inductive Template.Keeps (t : Template) (p : Parameters) : Span → Prop
  | outside {range : Span}
      (h : range ∈ Text.gaps 0 t.text.length (t.slots.map fun s => s.directive.span)) :
      t.Keeps p range
  | inside {s : Slot} {range : Span} (hs : s ∈ t.slots) (hstays : s.directive.Stays p)
      (h : range ∈ Text.gaps s.directive.bodySpan.start s.directive.bodySpan.stop
        (s.children.map Directive.span)) :
      t.Keeps p range
  | child {s : Slot} {c : Directive} (hs : s ∈ t.slots) (hstays : s.directive.Stays p)
      (hc : c ∈ s.children) (hchild : c.Stays p) :
      t.Keeps p c.bodySpan

/-- A name is referred to in a range of its text that a template keeps, scanned on its own. -/
def Template.RefersTo (t : Template) (p : Parameters) (n : String) : Prop :=
  ∃ range : Span, t.Keeps p range ∧ n ∈ referencedNames (range.slice t.text)

/-- Only optional directives have children. -/
theorem children_of_mem_arrange {current s : Slot} {ds : List Directive}
    (hcurrent : current.children = [] ∨ current.directive.kind = .optional)
    (hs : s ∈ arrange current ds) : s.children = [] ∨ s.directive.kind = .optional := by
  induction ds generalizing current with
  | nil =>
    rw [arrange, List.mem_singleton] at hs
    exact hs ▸ hcurrent
  | cons d ds ih =>
    rw [arrange] at hs
    split at hs
    · next hd =>
      simp only [Slot.admits, Bool.and_eq_true, beq_iff_eq] at hd
      have hadd : (current.add d).children = [] ∨ (current.add d).directive.kind = .optional :=
        .inr hd.1.1
      exact ih hadd hs
    · split at hs
      · exact ih hcurrent hs
      · rcases List.mem_cons.1 hs with rfl | hs
        · exact hcurrent
        · exact ih (.inl rfl) hs

/-- Only optional directives of a layout have children. -/
theorem children_of_mem_layout {text : List Char} {s : Slot} (hs : s ∈ layout text) :
    s.children = [] ∨ s.directive.kind = .optional := by
  rw [layout] at hs
  cases hsorted : (extract text).inOrder with
  | nil => simp [hsorted, arrangeAll] at hs
  | cons d ds =>
    rw [hsorted, arrangeAll] at hs
    exact children_of_mem_arrange (.inl rfl) hs

/-! ### Own pieces are what is kept -/

/-- The own pieces of a range are what lies between the items, and the own pieces of the items. -/
theorem mem_interleave_iff {α : Type} {directive : α → Directive}
    {pieces : α → Except Error (List Piece)} {own : α → Prop} {text : List Char}
    {cursor stop : Nat} {items : List α} {rendered : List (Directive × List Piece)} {x : List Char}
    (hall : List.Forall₂ (fun a r => r.1 = directive a ∧ pieces a = .ok r.2) items rendered)
    (hown : ∀ a ∈ items, ∀ ps, pieces a = .ok ps → (.own x ∈ ps ↔ own a)) :
    .own x ∈ interleave text cursor stop rendered ↔
      (∃ range ∈ Text.gaps cursor stop (items.map fun a => (directive a).span),
        range.slice text = x) ∨ ∃ a ∈ items, own a := by
  induction hall generalizing cursor with
  | nil => simp [interleave, Text.gaps, eq_comm]
  | @cons a r items rendered hr hmore ih =>
    obtain ⟨d, ps⟩ := r
    obtain ⟨rfl, hps⟩ := hr
    have hgap : Piece.own x = .own (Span.slice ⟨cursor, (directive a).start⟩ text) ↔
        Span.slice ⟨cursor, (directive a).span.start⟩ text = x := by
      rw [Piece.own.injEq]
      exact eq_comm
    rw [interleave, List.mem_cons, List.mem_append, hgap, hown a List.mem_cons_self ps hps,
      ih fun b hb => hown b (List.mem_cons_of_mem a hb)]
    simp only [List.map_cons, Text.gaps, List.exists_mem_cons_iff, or_assoc]
    exact or_congr_right or_left_comm

/-- The pieces of a directive that stays are those of its body, and no piece of another one is its
    own. -/
theorem Directive.pieces_of_stays {d : Directive} {body : Except Error (List Piece)}
    {dialect : Dialect} {ps : List Piece} (h : d.pieces body dialect p = .ok ps)
    (hplain : d.kind = .parameter → body = .ok [.own d.body]) :
    d.Stays p ∧ body = .ok ps ∨ ¬ d.Stays p ∧ ∀ x, .own x ∉ ps := by
  have hps := Directive.pieces_cases h
  unfold Directive.Stays
  cases hkind : d.kind with
  | parameter =>
    rw [hkind] at hps
    exact .inl ⟨trivial, hps ▸ hplain hkind⟩
  | literal =>
    rw [hkind] at hps
    obtain ⟨new, rfl⟩ := hps
    exact .inr ⟨id, by simp⟩
  | optional =>
    rw [hkind] at hps
    -- Present names keep the body, an absent one takes all of it away.
    rcases hps with ⟨hpresent, hbody⟩ | ⟨habsent, rfl⟩
    · exact .inl ⟨List.all_eq_true.1 hpresent, hbody⟩
    · refine .inr ⟨fun hall => ?_, fun x => List.not_mem_nil⟩
      exact Bool.eq_false_iff.1 habsent (List.all_eq_true.2 hall)

/-- The own pieces of a slot are what is kept of its body. -/
theorem Slot.own_mem_pieces_iff {text : List Char} {s : Slot} (hs : s ∈ layout text)
    {dialect : Dialect} {ps : List Piece} {x : List Char}
    (h : s.pieces text dialect p = .ok ps) :
    .own x ∈ ps ↔ s.directive.Stays p ∧
      ((∃ range ∈ Text.gaps s.directive.bodySpan.start s.directive.bodySpan.stop
          (s.children.map Directive.span), range.slice text = x) ∨
        ∃ c ∈ s.children, c.Stays p ∧ c.bodySpan.slice text = x) := by
  have hchild : ∀ c ∈ s.children, ∀ ps, c.childPieces dialect p = .ok ps →
      (.own x ∈ ps ↔ c.Stays p ∧ c.bodySpan.slice text = x) := by
    intro c hc ps hps
    have hslice := (standsIn_of_mem_layout hs (List.mem_cons_of_mem s.directive hc)).slice_bodySpan
    rcases Directive.pieces_of_stays hps fun _ => rfl with ⟨hstays, hbody⟩ | ⟨hgone, hnone⟩
    · cases hbody
      simp [hstays, hslice, eq_comm]
    · simp [hgone, hnone]
  -- A parameter slot has no children, so that its body is one piece.
  have hnone : s.directive.kind = .parameter → s.children = [] := fun hkind =>
    (children_of_mem_layout hs).resolve_right (by simp [hkind])
  have hslice := (standsIn_of_mem_layout hs List.mem_cons_self).slice_bodySpan
  rcases Directive.pieces_of_stays h fun hkind => by rw [hnone hkind, ← hslice]; rfl with
    ⟨hstays, hbody⟩ | ⟨hgone, hnone⟩
  · obtain ⟨rendered, rfl, hall⟩ := exists_rendered hbody
    rw [mem_interleave_iff hall hchild]
    simp [hstays]
  · simp [hgone, hnone]

/-- **The own pieces are what is kept**: the text of every range that a template keeps is an own
    piece, and every own piece is the text of such a range. -/
theorem Template.mem_ownOf_iff {t : Template} {ps : List Piece} (h : t.pieces p = .ok ps)
    {x : List Char} :
    x ∈ Piece.ownOf ps ↔ ∃ range : Span, t.Keeps p range ∧ range.slice t.text = x := by
  obtain ⟨rendered, rfl, hall⟩ := exists_rendered h
  rw [Piece.mem_ownOf, mem_interleave_iff hall fun s hs ps hps => Slot.own_mem_pieces_iff hs hps]
  constructor
  · rintro (⟨range, hrange, hx⟩ | ⟨s, hs, hstays, ⟨range, hrange, hx⟩ | ⟨c, hc, hchild, hx⟩⟩)
    · exact ⟨range, .outside hrange, hx⟩
    · exact ⟨range, .inside hs hstays hrange, hx⟩
    · exact ⟨c.bodySpan, .child hs hstays hc hchild, hx⟩
  · rintro ⟨range, hkeeps, hx⟩
    cases hkeeps with
    | outside hrange => exact .inl ⟨range, hrange, hx⟩
    | inside hs hstays hrange => exact .inr ⟨_, hs, hstays, .inl ⟨range, hrange, hx⟩⟩
    | child hs hstays hc hchild => exact .inr ⟨_, hs, hstays, .inr ⟨_, hc, hchild, hx⟩⟩

/-- The names of own pieces are those in ranges that are kept. -/
theorem Template.refersTo_iff {t : Template} {ps : List Piece} (h : t.pieces p = .ok ps)
    {n : String} : t.RefersTo p n ↔ n ∈ Piece.namesOf ps := by
  rw [Piece.mem_namesOf]
  constructor
  · rintro ⟨range, hkeeps, hn⟩
    exact ⟨_, (mem_ownOf_iff h).2 ⟨range, hkeeps, rfl⟩, hn⟩
  · rintro ⟨x, hx, hn⟩
    obtain ⟨range, hkeeps, rfl⟩ := (mem_ownOf_iff h).1 hx
    exact ⟨range, hkeeps, hn⟩

/-! ### What is kept stands outside of literal directives -/

/-- Every directive of a slot lies in the slot. -/
theorem Slot.within_of_mem_all {text : List Char} {s : Slot} (hs : s ∈ layout text) {d : Directive}
    (hd : d ∈ s.all) : d.span.Within s.directive.span := by
  rcases List.mem_cons.1 hd with rfl | hd
  · exact Span.Within.refl _
  · have hspan := (nested_of_mem_layout hs).of_mem (List.mem_map_of_mem hd)
    exact Span.Within.trans ⟨hspan.1, hspan.2.2⟩ s.directive.bodySpan_within

/-- A range in the body of a slot that stays is apart from all literal directives if it is apart
    from those of the slot. -/
theorem Slot.apart_of_within {text : List Char} {s : Slot} (hs : s ∈ layout text)
    (hstays : s.directive.Stays p) {range : Span} (hrange : range.Within s.directive.bodySpan)
    (hchildren : ∀ c ∈ s.children, c.kind = .literal → range.Apart c.span) :
    ∀ d ∈ keptDirectives text, d.kind = .literal → range.Apart d.span := by
  intro d hd hliteral
  obtain ⟨s', hs', hd⟩ := List.mem_flatMap.1 hd
  rcases (ascending_layout text).apart hs hs' with rfl | hapart
  · rcases List.mem_cons.1 hd with rfl | hd
    · simp [Directive.Stays, hliteral] at hstays
    · exact hchildren d hd hliteral
  · exact hapart.mono (hrange.trans s.directive.bodySpan_within) (Slot.within_of_mem_all hs' hd)

/-- No literal directive that counts overlaps a range that is kept. -/
theorem Template.Keeps.apart {t : Template} {range : Span} (h : t.Keeps p range) :
    ∀ d ∈ keptDirectives t.text, d.kind = .literal → range.Apart d.span := by
  cases h with
  | outside hrange =>
    obtain ⟨-, hapart⟩ := (ascending_layout t.text).apart_gap hrange
    intro d hd _
    obtain ⟨s, hs, hd⟩ := List.mem_flatMap.1 hd
    have hslot := hapart s.directive.span (List.mem_map_of_mem hs)
    exact hslot.mono (Span.Within.refl _) (Slot.within_of_mem_all hs hd)
  | inside hs hstays hrange =>
    obtain ⟨hwithin, hapart⟩ := (nested_of_mem_layout hs).apart_gap hrange
    exact Slot.apart_of_within hs hstays hwithin fun c hc _ =>
      hapart c.span (List.mem_map_of_mem hc)
  | @child s c hs hstays hc hchild =>
    have hspan := (nested_of_mem_layout hs).of_mem (List.mem_map_of_mem hc)
    have hwithin : c.bodySpan.Within s.directive.bodySpan :=
      c.bodySpan_within.trans ⟨hspan.1, hspan.2.2⟩
    refine Slot.apart_of_within hs hstays hwithin fun d hd hliteral => ?_
    -- The children of a slot are apart from one another.
    rcases (nested_of_mem_layout hs).apart hc hd with rfl | hapart
    · simp [Directive.Stays, hliteral] at hchild
    · exact hapart.mono c.bodySpan_within (Span.Within.refl _)

end QueryBook
