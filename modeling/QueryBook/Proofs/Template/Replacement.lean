import QueryBook.Proofs.Template.Alike
import QueryBook.Proofs.Template.Placement

namespace QueryBook

/-!
# Resolving replaces every directive at once

The text of a statement is the template's text in which each slot's range has given way to what
becomes of the slot; nothing else changes.

* `Parameters.Spells`, `Directive.Becomes`, `Slot.Becomes` — the rule for a reference, a directive
  and a slot, said without the renderer: a slot's kept body is itself a text with ranges replaced.
* `Slot.Becomes.unique` — one text becomes of a slot.
* `Slot.exists_pieces` — the renderer gives pieces whose text is what becomes of the slot.
* `Template.resolve_replaces` — a template that nothing spoils resolves for every call, to the one
  text that the rule allows, and every range that is cut out on the way is inside the text and in
  order.
-/

open Text (Ascending Replaced Span)

/-! ### The rule -/

variable {p : Parameters}

/-- The characters are the SQL text of the value of a name, which is neither null nor blank. -/
def Parameters.Spells (p : Parameters) (name : String) (new : List Char) : Prop :=
  ∃ v s, p.get? name = some v ∧ v.isBlank = false ∧ v.literal? = some s ∧ s.toList = new

/-- What becomes of a directive, given what may become of the body of an optional one. A parameter
    directive loses its markers; all references of a literal one are replaced at once, and one
    value without SQL text empties it; one name that is not present drops an optional one. -/
def Directive.Becomes (p : Parameters) (inside : List Char → Prop) (d : Directive)
    (new : List Char) : Prop :=
  match d.kind with
  | .parameter => new = d.body
  | .literal =>
    Replaced Reference.span (fun r => p.Spells r.name) 0 (references d.body) d.body new ∨
      new = [] ∧ ∃ n ∈ d.names, ∀ s, ¬ p.Spells n s
  | .optional =>
    inside new ∧ (∀ n ∈ d.names, p.isPresent n = true) ∨
      new = [] ∧ ∃ n ∈ d.names, p.isPresent n = false

/-- What becomes of a slot: in a kept body the children are replaced by the same rule. -/
def Slot.Becomes (p : Parameters) (s : Slot) : List Char → Prop :=
  s.directive.Becomes p (Replaced Directive.span (fun c => c.Becomes p (· = c.body))
    s.directive.bodySpan.start s.children s.directive.body)

/-! ### The rule allows one text -/

/-- The SQL text of a value is the one that the splicing looks up. -/
theorem Parameters.spells_iff {name : String} {new : List Char} :
    p.Spells name new ↔ (p.literal? name).map String.toList = some new := by
  unfold Parameters.Spells Parameters.literal?
  cases p.get? name with
  | none => simp
  | some v =>
    cases hblank : v.isBlank <;> simp [hblank]

/-- A value has one SQL text. -/
theorem Parameters.Spells.unique {name : String} {new new' : List Char} (h : p.Spells name new)
    (h' : p.Spells name new') : new = new' :=
  Option.some.inj ((spells_iff.1 h).symm.trans (spells_iff.1 h'))

/-- A reference that is replaced has a value with an SQL text. -/
theorem exists_spells_of_replaced {place : Nat} {rs : List Reference} {text out : List Char}
    (h : Replaced Reference.span (fun r => p.Spells r.name) place rs text out) :
    ∀ r ∈ rs, ∃ new, p.Spells r.name new := by
  induction h with
  | rest => exact fun r hr => absurd hr List.not_mem_nil
  | step hspan hnew hrest ih =>
    intro r hr
    rcases List.mem_cons.1 hr with rfl | hr
    · exact ⟨_, hnew⟩
    · exact ih r hr

/-- One text becomes of a directive if one may become of its body. -/
theorem Directive.Becomes.unique {d : Directive} {inside : List Char → Prop}
    (hinside : ∀ new new', inside new → inside new' → new = new') {new new' : List Char}
    (h : d.Becomes p inside new) (h' : d.Becomes p inside new') : new = new' := by
  unfold Directive.Becomes at h h'
  cases hkind : d.kind with
  | parameter =>
    simp only [hkind] at h h'
    exact h.trans h'.symm
  | literal =>
    simp only [hkind] at h h'
    -- A name without SQL text is not replaced.
    have hclash : ∀ {out : List Char},
        Replaced Reference.span (fun r => p.Spells r.name) 0 (references d.body) d.body out →
          ¬ ∃ n ∈ d.names, ∀ s, ¬ p.Spells n s := by
      rintro out hout ⟨n, hn, hnone⟩
      obtain ⟨r, hr, rfl⟩ := mem_referencedNames_iff.1 hn
      obtain ⟨s, hs⟩ := exists_spells_of_replaced hout r hr
      exact hnone s hs
    rcases h with h | ⟨rfl, hnone⟩ <;> rcases h' with h' | ⟨rfl, hnone'⟩
    · exact h.unique (fun r _ _ _ hs hs' => hs.unique hs') h'
    · exact absurd hnone' (hclash h)
    · exact absurd hnone (hclash h')
    · rfl
  | optional =>
    simp only [hkind] at h h'
    rcases h with ⟨h, hall⟩ | ⟨rfl, n, hn, habsent⟩ <;>
      rcases h' with ⟨h', hall'⟩ | ⟨rfl, n', hn', habsent'⟩
    · exact hinside new new' h h'
    · exact absurd (hall n' hn') (by simp [habsent'])
    · exact absurd (hall' n hn) (by simp [habsent])
    · rfl

/-- One text becomes of a slot. -/
theorem Slot.Becomes.unique {s : Slot} {new new' : List Char} (h : s.Becomes p new)
    (h' : s.Becomes p new') : new = new' := by
  refine Directive.Becomes.unique (fun out out' hout hout' => ?_) h h'
  refine hout.unique (fun c _ _ _ hc hc' => ?_) hout'
  exact hc.unique (fun _ _ hnew hnew' => hnew.trans hnew'.symm) hc'

/-! ### The renderer follows the rule -/

/-- A pass over a list of which every step succeeds. -/
theorem exists_mapM_ok {ε α β : Type} {f : α → Except ε β} {R : α → β → Prop} {l : List α}
    (h : ∀ a ∈ l, ∃ b, f a = .ok b ∧ R a b) : ∃ bs, l.mapM f = .ok bs ∧ List.Forall₂ R l bs := by
  induction l with
  | nil => exact ⟨[], rfl, .nil⟩
  | cons a l ih =>
    obtain ⟨b, hb, hR⟩ := h a List.mem_cons_self
    obtain ⟨bs, hbs, hall⟩ := ih fun a' ha' => h a' (List.mem_cons_of_mem a ha')
    refine ⟨b :: bs, ?_, .cons hR hall⟩
    rw [List.mapM_cons, hb, hbs]
    rfl

/-- A pass over a list of which one step fails, or which gives an answer for each item. -/
theorem mapM_option_cases {α β : Type} (f : α → Option β) (l : List α) :
    (∃ a ∈ l, f a = none) ∧ l.mapM f = none ∨
      ∃ bs, l.mapM f = some bs ∧ List.Forall₂ (fun a b => f a = some b) l bs := by
  induction l with
  | nil => exact .inr ⟨[], rfl, .nil⟩
  | cons a l ih =>
    rw [List.mapM_cons]
    cases ha : f a with
    | none => exact .inl ⟨⟨a, List.mem_cons_self, ha⟩, rfl⟩
    | some b =>
      rcases ih with ⟨⟨a', ha', hnone⟩, hl⟩ | ⟨bs, hl, hall⟩
      · exact .inl ⟨⟨a', List.mem_cons_of_mem a ha', hnone⟩, by rw [hl]; rfl⟩
      · exact .inr ⟨b :: bs, by rw [hl]; rfl, .cons ha hall⟩

/-- Splicing replaces all references at once, or finds a name without SQL text. -/
theorem spliceLiterals?_cases (text : List Char) (p : Parameters) :
    (∃ new, spliceLiterals? text p = some new ∧
        Replaced Reference.span (fun r => p.Spells r.name) 0 (references text) text new) ∨
      spliceLiterals? text p = none ∧ ∃ n ∈ referencedNames text, ∀ s, ¬ p.Spells n s := by
  unfold spliceLiterals?
  -- Some reference has no spelling, or each of them is replaced by its own.
  rcases mapM_option_cases
    (fun r : Reference => (p.literal? r.name).map fun s => (r.span, s.toList))
    (references text) with ⟨⟨r, hr, hnone⟩, hl⟩ | ⟨rs, hl, hall⟩
  · rw [Option.map_eq_none_iff] at hnone
    refine .inr ⟨by rw [hl]; rfl, r.name, mem_referencedNames_iff.2 ⟨r, hr, rfl⟩, fun s hs => ?_⟩
    rw [Parameters.spells_iff, hnone] at hs
    exact absurd hs (by simp)
  · refine .inl ⟨_, by rw [hl]; rfl, ?_⟩
    have hspans : (references text).map Reference.span = rs.map Prod.fst := by
      rw [← List.forall₂_eq_eq_eq, List.forall₂_map_left_iff, List.forall₂_map_right_iff]
      refine hall.imp fun r b hb => ?_
      obtain ⟨s, hs, rfl⟩ := Option.map_eq_some_iff.1 hb
      rfl
    refine Replaced.of_forall₂ ?_ (Text.replaced_replaceFrom ?_)
    · refine hall.imp fun r b hb => ?_
      obtain ⟨s, hs, rfl⟩ := Option.map_eq_some_iff.1 hb
      refine ⟨rfl, ?_⟩
      rintro new rfl
      exact Parameters.spells_iff.2 (by rw [hs]; rfl)
    · rw [← hspans, Nat.zero_add]
      exact ascending_references text

/-- A directive that refers to a name gives pieces, and their text is what becomes of it. -/
theorem Directive.exists_pieces {d : Directive} (hd : d.isMalformed = false)
    {body : Except Error (List Piece)} {inside : List Char → Prop}
    (hbody : ∃ ps, body = .ok ps ∧ inside (Piece.textOf ps)) (dialect : Dialect) :
    ∃ ps, d.pieces body dialect p = .ok ps ∧ d.Becomes p inside (Piece.textOf ps) := by
  obtain ⟨ps, rfl, hps⟩ := hbody
  have hnames : (referencedNames d.body).isEmpty = false := hd
  unfold Directive.pieces Directive.Kind.render Directive.Becomes
  simp only [hnames]
  cases d.kind with
  | parameter => exact ⟨_, rfl, by simp [Piece.text]⟩
  | literal =>
    refine ⟨_, rfl, ?_⟩
    rcases spliceLiterals?_cases d.body p with ⟨new, hnew, hreplaced⟩ | ⟨hnone, hmissing⟩
    · exact .inl (by simpa [hnew, Piece.text] using hreplaced)
    · exact .inr ⟨by simp [hnone, Piece.text], hmissing⟩
  | optional =>
    cases hpresent : p.allPresent (referencedNames d.body) with
    | true =>
      have hne : d.body.isEmpty = false := by
        rw [List.isEmpty_eq_false_iff]
        rintro hnil
        rw [hnil] at hnames
        exact absurd hnames (by decide)
      exact ⟨ps, by simp [bind, Except.bind, hne], .inl ⟨hps, List.all_eq_true.1 hpresent⟩⟩
    | false =>
      obtain ⟨n, hn, habsent⟩ := List.all_eq_false.1 hpresent
      exact ⟨[], rfl, .inr ⟨rfl, n, hn, Bool.eq_false_iff.2 habsent⟩⟩

/-- The pieces between and in ascending directives make up the range with every directive
    replaced. -/
theorem replaced_interleave {α : Type} {directive : α → Directive}
    {becomes : α → List Char → Prop} {text : List Char} {items : List α}
    {rendered : List (Directive × List Piece)} {cursor stop : Nat}
    (hrendered : List.Forall₂ (fun a r => r.1 = directive a ∧ becomes a (Piece.textOf r.2))
      items rendered)
    (hspans : Ascending cursor stop (items.map fun a => (directive a).span))
    (hstop : stop ≤ text.length) :
    Replaced (fun a => (directive a).span) becomes cursor items (Span.slice ⟨cursor, stop⟩ text)
      (Piece.textOf (interleave text cursor stop rendered)) := by
  induction hrendered generalizing cursor with
  | nil =>
    simp only [interleave, Piece.textOf_cons, Piece.textOf_nil, List.append_nil, Piece.text]
    exact .rest cursor _
  | @cons a r items rendered hr hmore ih =>
    obtain ⟨d, ps⟩ := r
    obtain ⟨rfl, hnew⟩ := hr
    have hfirst : cursor ≤ (directive a).span.start := hspans.1
    have hle : (directive a).span.start ≤ (directive a).span.stop := hspans.2.1
    have hrest : Ascending (directive a).span.stop stop (items.map fun a => (directive a).span) :=
      hspans.2.2
    have hbehind : (directive a).span.stop ≤ stop := hrest.le
    have hlen : (Span.slice ⟨cursor, stop⟩ text).length = stop - cursor := Span.length_slice hstop
    -- The text in front of the directive is kept, then comes what it becomes.
    have hout : Piece.textOf (interleave text cursor stop ((directive a, ps) :: rendered)) =
        (Span.slice ⟨cursor, stop⟩ text).take ((directive a).span.start - cursor) ++
          Piece.textOf ps ++
          Piece.textOf (interleave text (directive a).span.stop stop rendered) := by
      rw [Span.take_slice (by omega)]
      simp [interleave, Piece.text, Directive.span]
    rw [hout]
    refine Replaced.cut hfirst hle (by rw [hlen]; omega) hnew ?_
    rw [Span.drop_slice (by omega)]
    exact ih hrest

/-- A slot of which no directive is malformed gives pieces, and their text is what becomes of it. -/
theorem Slot.exists_pieces {text : List Char} {s : Slot} (hs : s ∈ layout text)
    (hgood : ∀ d ∈ s.all, d.isMalformed = false) (dialect : Dialect) :
    ∃ ps, s.pieces text dialect p = .ok ps ∧ s.Becomes p (Piece.textOf ps) := by
  have hdirective : s.directive.StandsIn text := standsIn_of_mem_layout hs List.mem_cons_self
  refine Directive.exists_pieces (hgood s.directive List.mem_cons_self) ?_ dialect
  -- First the children, each of which stays or becomes its own text.
  obtain ⟨rendered, hrendered, hall⟩ := exists_mapM_ok
    (f := fun c => (do .ok (c, ← c.childPieces dialect p) : Except Error (Directive × List Piece)))
    (R := fun c r => r.1 = c ∧ c.Becomes p (· = c.body) (Piece.textOf r.2)) (l := s.children)
    fun c hc => by
      have hchild : ∃ ps, c.childPieces dialect p = .ok ps ∧
          c.Becomes p (· = c.body) (Piece.textOf ps) :=
        Directive.exists_pieces (hgood c (List.mem_cons_of_mem s.directive hc))
          ⟨[.own c.body], rfl, by simp [Piece.text]⟩ dialect
      obtain ⟨ps, hps, hbecomes⟩ := hchild
      exact ⟨(c, ps), by rw [hps]; rfl, rfl, hbecomes⟩
  refine ⟨_, by rw [hrendered]; rfl, ?_⟩
  have hstop : s.directive.bodySpan.stop ≤ text.length := by
    have := hdirective.stop_le
    simp only [Directive.span] at this
    omega
  rw [← hdirective.slice_bodySpan]
  exact replaced_interleave hall (nested_of_mem_layout hs) hstop

/-- A template that nothing spoils gives pieces, and their text is its own with every slot
    replaced. -/
theorem Template.exists_pieces {t : Template}
    (hgood : ∀ d ∈ keptDirectives t.text, d.isMalformed = false) (p : Parameters) :
    ∃ ps, t.pieces p = .ok ps ∧ Replaced (fun s => s.directive.span) (Slot.Becomes p) 0 t.slots
      t.text (Piece.textOf ps) := by
  obtain ⟨rendered, hrendered, hall⟩ := exists_mapM_ok
    (f := fun s => (do .ok (s.directive, ← s.pieces t.text t.dialect p) :
      Except Error (Directive × List Piece)))
    (R := fun s r => r.1 = s.directive ∧ s.Becomes p (Piece.textOf r.2)) (l := t.slots)
    fun s hs => by
      obtain ⟨ps, hps, hbecomes⟩ := Slot.exists_pieces (p := p) hs
        (fun d hd => hgood d (List.mem_flatMap.2 ⟨s, hs, hd⟩)) t.dialect
      exact ⟨(s.directive, ps), by rw [hps]; rfl, rfl, hbecomes⟩
  refine ⟨_, by rw [Template.pieces, hrendered]; rfl, ?_⟩
  have := replaced_interleave hall (ascending_layout t.text) (Nat.le_refl _)
  rwa [Span.slice_whole] at this

/-! ### The statement -/

/-- Where nothing is malformed, the pieces make the statement. -/
theorem Template.exists_resolve {t : Template} {ps : List Piece} (h : t.malformed = [])
    (hps : t.pieces p = .ok ps) :
    ∃ s, t.resolve p = .ok s ∧ s.sql = String.ofList (Piece.textOf ps) ∧
      s.parameters = p.subset (Piece.namesOf ps) ∧ s.dialect = t.dialect :=
  ⟨_, by rw [Template.resolve, h, hps]; rfl, rfl, rfl, rfl⟩

/-- **Resolving is simultaneous replacement.** A template of which no directive that counts is
    malformed resolves for every call. The text of the statement is the only one in which each slot
    has given way to what becomes of it and all else is as it was; the slots are inside the text and
    in order, and the children of each slot inside its body and in order. -/
theorem Template.resolve_replaces (t : Template) (p : Parameters)
    (h : ∀ d ∈ keptDirectives t.text, d.isMalformed = false) :
    ∃ s, t.resolve p = .ok s ∧
      (∀ out, Replaced (fun s => s.directive.span) (Slot.Becomes p) 0 t.slots t.text out ↔
        out = s.sql.toList) ∧
      Ascending 0 t.text.length (t.slots.map fun s => s.directive.span) ∧
      ∀ s ∈ t.slots, s.Nested := by
  obtain ⟨ps, hps, hreplaced⟩ := Template.exists_pieces h p
  obtain ⟨s, hs, hsql, -⟩ := Template.exists_resolve (malformed_eq_nil_iff.2 h) hps
  refine ⟨s, hs, fun out => ?_, ascending_layout t.text, fun s hs => nested_of_mem_layout hs⟩
  rw [hsql, String.toList_ofList]
  constructor
  · exact fun hout => hout.unique (fun s _ _ _ hs hs' => hs.unique hs') hreplaced
  · rintro rfl
    exact hreplaced

/-- The literal directive inside the optional one is replaced within the kept body, and both lose
    their markers. -/
theorem Template.resolve_replaces_orders :
    (∀ d ∈ keptDirectives ordersTemplate.text, d.isMalformed = false) ∧
      ∃ s, ordersTemplate.resolve (ordersCall 1 "OPEN") = .ok s ∧
        s.sql.toList = "SELECT * FROM o WHERE id=@id AND s=@s ORDER BY day -- @note".toList ∧
        (∀ out, Replaced (fun s => s.directive.span) (Slot.Becomes (ordersCall 1 "OPEN")) 0
          ordersTemplate.slots ordersTemplate.text out ↔ out = s.sql.toList) ∧
        Ascending 0 ordersTemplate.text.length
          (ordersTemplate.slots.map fun s => s.directive.span) ∧
        ∀ s ∈ ordersTemplate.slots, s.Nested := by
  have hgood : ∀ d ∈ keptDirectives ordersTemplate.text, d.isMalformed = false := by
    rw [keptDirectives, layout_ordersTemplate]
    decide +kernel
  have htext : (ordersTemplate.pieces (ordersCall 1 "OPEN")).toOption.map Piece.textOf =
      some "SELECT * FROM o WHERE id=@id AND s=@s ORDER BY day -- @note".toList := by
    rw [Template.pieces, Template.slots, layout_ordersTemplate]
    decide +kernel
  obtain ⟨ps, hps, -⟩ := Template.exists_pieces hgood (ordersCall 1 "OPEN")
  obtain ⟨s, hs, hsql, -⟩ := Template.exists_resolve (malformed_eq_nil_iff.2 hgood) hps
  obtain ⟨s', hs', hreplaced⟩ := resolve_replaces ordersTemplate (ordersCall 1 "OPEN") hgood
  obtain rfl := Except.ok.inj (hs'.symm.trans hs)
  rw [hps] at htext
  refine ⟨hgood, s', hs', ?_, hreplaced⟩
  rw [hsql, String.toList_ofList]
  exact Option.some.inj htext

end QueryBook
