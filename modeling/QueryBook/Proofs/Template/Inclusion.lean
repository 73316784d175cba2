import QueryBook.Proofs.Sql.Parts
import QueryBook.Proofs.Template.Batch
import QueryBook.Proofs.Template.Overlaps

namespace QueryBook

/-!
# What an optional directive asks for and what it binds

Whether an optional directive is kept is decided by the references of its body, read as a whole with
the markers of the directives inside it. What is bound is read piece by piece. The two readings
differ behind the markers `@@`: an `@` that follows them begins no reference in the whole body, but
one in a piece that it begins.

* `namesFrom`, `namesFrom_append` — the names of a text behind a character, and of a text in parts.
* `Directive.Hides`, `Slot.Hides` — the names of references that only the pieces have.
* `mem_namesOf_interleave_iff` — the names of the pieces of a body against those of the whole.
* `Template.supplied_of_included` — which names an optional directive that is kept binds, and when
  all of them have a value.
-/

open Text (Ascending Span)

/-! ### Names in parts of a text -/

/-- The names of the references in a text behind a character. -/
def namesFrom (before : Option Char) (cs : List Char) : List String :=
  (referencesFrom before 0 cs).map Reference.name

section

variable {before before' : Option Char} {cs u v : List Char} {n : String}

/-- The names of a text are those of its references, behind any character. -/
theorem map_name_referencesFrom (before : Option Char) (place : Nat) (cs : List Char) :
    (referencesFrom before place cs).map Reference.name = namesFrom before cs := by
  have hplaces : ∀ place place', (referencesFrom before place cs).map Reference.name =
      (referencesFrom before place' cs).map Reference.name := by
    induction cs generalizing before with
    | nil => exact fun _ _ => rfl
    | cons c cs ih =>
      intro place place'
      rw [referencesFrom, referencesFrom]
      split
      · rw [List.map_cons, List.map_cons, ih]
      · exact ih _ _ _
  exact hplaces place 0

@[simp] theorem namesFrom_nil (before : Option Char) : namesFrom before [] = [] := rfl

/-- The first character adds a name if it begins a reference. -/
theorem namesFrom_cons (before : Option Char) (c : Char) (cs : List Char) :
    namesFrom before (c :: cs) =
      (if c == '@' && mayPrecede before && cs.head?.any isNameStart then
        [String.ofList (cs.takeWhile isNameChar)] else []) ++ namesFrom (some c) cs := by
  rw [namesFrom, referencesFrom]
  split <;> simp [map_name_referencesFrom]

/-- A text by itself is read as from its beginning on. -/
theorem mem_referencedNames : n ∈ referencedNames cs ↔ n ∈ namesFrom none cs := by
  rw [referencedNames, List.mem_eraseDups]
  rfl

/-- No name begins with a character that is none of a name. -/
theorem any_isNameStart_append (hv : v.head?.any isNameChar = false) (u : List Char) :
    (u ++ v).head?.any isNameStart = u.head?.any isNameStart := by
  cases u with
  | cons c u => rfl
  | nil =>
    cases v with
    | nil => rfl
    | cons c v =>
      rw [List.nil_append, List.head?_cons, Option.any_some, List.head?_nil, Option.any_none,
        Bool.eq_false_iff]
      intro hc
      exact absurd (isNameChar_of_isNameStart hc) (by simpa using hv)

/-- In front of a character that is none of a name, a text is read in two parts. -/
theorem namesFrom_append (hv : v.head?.any isNameChar = false) (before : Option Char)
    (u : List Char) :
    namesFrom before (u ++ v) = namesFrom before u ++ namesFrom (u.getLast?.or before) v := by
  induction u generalizing before with
  | nil => rfl
  | cons c u ih =>
    have hlast : (c :: u).getLast?.or before = u.getLast?.or (some c) := by
      rw [List.getLast?_cons]
      cases u.getLast? <;> rfl
    rw [List.cons_append, namesFrom_cons, namesFrom_cons, ih, any_isNameStart_append hv,
      (Sql.takeWhile_append_of_head? hv u).1, hlast, List.append_assoc]

/-! ### The reference that a text begins with -/

/-- When a text begins with a reference. -/
theorem mem_references_zero {c : Char} : ⟨n, 0⟩ ∈ references (c :: cs) ↔
    c = '@' ∧ cs.head?.any isNameStart = true ∧ n = String.ofList (cs.takeWhile isNameChar) := by
  -- All further references begin behind the first character.
  have hbehind : ⟨n, 0⟩ ∉ referencesFrom (some c) 1 cs := by
    intro hmem
    have hspans : Ascending 1 (1 + cs.length) ((referencesFrom (some c) 1 cs).map Reference.span) :=
      ascending_referencesFrom (Nat.le_add_right _ _)
    exact absurd (hspans.of_mem (List.mem_map_of_mem hmem)).1 (by simp [Reference.span])
  rw [references, referencesFrom, Nat.zero_add]
  by_cases hat : c = '@'
  · cases hstart : cs.head?.any isNameStart
    · simp [hbehind]
    · have hnone : mayPrecede none = true := rfl
      simp only [hat, hnone, beq_self_eq_true, Bool.and_self, if_true, List.mem_cons,
        Reference.mk.injEq, and_true, true_and, hat ▸ hbehind, or_false]
  · simp [hat, hbehind]

theorem not_mem_references_nil {r : Reference} : r ∉ references [] := List.not_mem_nil

/-- Behind a character that no reference may follow, one name is lost at most: that of the reference
    which the text begins with. -/
theorem mem_namesFrom_none (before : Option Char) : n ∈ namesFrom none cs ↔
    n ∈ namesFrom before cs ∨ mayPrecede before = false ∧ ⟨n, 0⟩ ∈ references cs := by
  cases cs with
  | nil => simp [not_mem_references_nil]
  | cons c cs =>
    rw [mem_references_zero, namesFrom_cons, namesFrom_cons]
    have hnone : mayPrecede none = true := rfl
    cases hbefore : mayPrecede before <;> by_cases hat : c = '@' <;>
      cases hstart : cs.head?.any isNameStart <;> simp [hnone, hat, or_comm]

/-- What a text begins with does not depend on what follows it, as long as no name goes on there and
    no reference begins. -/
theorem mem_references_zero_append (hv : v.head?.any isNameChar = false)
    (hnone : ⟨n, 0⟩ ∉ references v) : ⟨n, 0⟩ ∈ references (u ++ v) ↔ ⟨n, 0⟩ ∈ references u := by
  cases u with
  | nil => simp [hnone, not_mem_references_nil]
  | cons c u =>
    rw [List.cons_append, mem_references_zero, mem_references_zero, any_isNameStart_append hv,
      (Sql.takeWhile_append_of_head? hv u).1]

/-! ### Markers -/

variable {k : Directive.Kind} {m : List Char}

/-- No name begins with an `@`. -/
theorem isNameStart_at : isNameStart '@' = false := by decide

/-- No name goes on with a marker, -/
theorem any_isNameChar_marker (hm : m = k.opening ∨ m = k.closing) :
    (m ++ v).head?.any isNameChar = false := by
  rcases hm with rfl | rfl <;> cases k <;>
    simp only [Directive.Kind.opening, Directive.Kind.closing, List.cons_append, List.head?_cons,
      Option.any_some] <;> decide

/-- and no reference begins with one. -/
theorem not_mem_references_marker (hm : m = k.opening ∨ m = k.closing) :
    ⟨n, 0⟩ ∉ references (m ++ v) := by
  rcases hm with rfl | rfl <;> cases k <;>
    simp [Directive.Kind.opening, Directive.Kind.closing, mem_references_zero, isNameStart_at]

/-- Of a marker only the last character counts for what stands behind it. -/
theorem namesFrom_marker (hm : m = k.opening ∨ m = k.closing) :
    namesFrom before (m ++ v) = namesFrom m.getLast? v := by
  rcases hm with rfl | rfl <;> cases k <;>
    simp [Directive.Kind.opening, Directive.Kind.closing, namesFrom_cons, mayPrecede,
      isNameStart_at]

/-- Only the markers `@@` hide a reference. -/
theorem mayPrecede_marker (hm : m = k.opening ∨ m = k.closing) :
    mayPrecede m.getLast? = false ↔ k = .parameter := by
  rcases hm with rfl | rfl <;> cases k <;> decide

end

/-- A range is cut at a place of it. -/
theorem Text.Span.slice_append {start mid stop : Nat} (h : start ≤ mid) (h' : mid ≤ stop)
    (text : List Char) :
    slice ⟨start, stop⟩ text = slice ⟨start, mid⟩ text ++ slice ⟨mid, stop⟩ text := by
  rw [← take_slice h', ← drop_slice h, List.take_append_drop]

/-! ### Directives inside a body -/

namespace Directive

variable {d : Directive} {ds : List Directive} {text : List Char} {cursor stop : Nat}
  {before : Option Char} {n : String}

/-- The name is that of a reference with which a piece begins, the body of the directive or what
    stands behind it, and which the text around has not, for a marker `@@` stands in front of it. -/
def Hides (d : Directive) (text : List Char) (n : String) : Prop :=
  d.kind = .parameter ∧
    (⟨n, 0⟩ ∈ references d.body ∨ ⟨n, 0⟩ ∈ references (text.drop d.span.stop))

/-- The names of a range are those before, in and behind a directive of it. -/
theorem StandsIn.mem_namesFrom_slice (h : d.StandsIn text) (hstart : cursor ≤ d.start)
    (hstop : d.span.stop ≤ stop) :
    n ∈ namesFrom before (Span.slice ⟨cursor, stop⟩ text) ↔
      n ∈ namesFrom before (Span.slice ⟨cursor, d.start⟩ text) ∨
        n ∈ namesFrom d.kind.opening.getLast? d.body ∨
          n ∈ namesFrom d.kind.closing.getLast? (Span.slice ⟨d.span.stop, stop⟩ text) := by
  have hmarker : Span.slice ⟨d.start, stop⟩ text = d.kind.opening ++ (d.body ++
      (d.kind.closing ++ Span.slice ⟨d.span.stop, stop⟩ text)) := by
    have hle : d.start ≤ d.span.stop := d.start_le_span_stop
    have hspan : Span.slice ⟨d.start, d.span.stop⟩ text = d.marker := h.slice_span
    rw [Span.slice_append hle hstop, hspan, marker, List.append_assoc, List.append_assoc]
  rw [Span.slice_append hstart (Nat.le_trans d.start_le_span_stop hstop), hmarker,
    namesFrom_append (any_isNameChar_marker (.inl rfl)), namesFrom_marker (.inl rfl),
    namesFrom_append (any_isNameChar_marker (.inr rfl)), namesFrom_marker (.inr rfl),
    List.mem_append, List.mem_append]

/-- The names of a directive's body are those that the text around has, and the one that its opening
    marker hides. -/
theorem mem_names_iff (d : Directive) (n : String) : n ∈ d.names ↔
    n ∈ namesFrom d.kind.opening.getLast? d.body ∨
      d.kind = .parameter ∧ ⟨n, 0⟩ ∈ references d.body := by
  rw [names, mem_referencedNames, mem_namesFrom_none d.kind.opening.getLast?,
    mayPrecede_marker (.inl rfl)]

/-- From a place on, a text begins with the same reference as the range up to a marker. -/
theorem mem_references_zero_drop {k : Kind} {m rest : List Char}
    (hm : m = k.opening ∨ m = k.closing) (hle : cursor ≤ stop)
    (hdrop : text.drop stop = m ++ rest) :
    ⟨n, 0⟩ ∈ references (text.drop cursor) ↔
      ⟨n, 0⟩ ∈ references (Span.slice ⟨cursor, stop⟩ text) := by
  rw [Text.drop_eq_slice_append text hle, hdrop, mem_references_zero_append
    (any_isNameChar_marker hm) (not_mem_references_marker hm)]

end Directive

namespace Piece

variable {x : List Char} {ps qs : List Piece} {n : String}

/-- The names of an own piece, and of those behind it. -/
theorem mem_namesOf_own_cons : n ∈ namesOf (.own x :: ps) ↔
    n ∈ namesFrom none x ∨ n ∈ namesOf ps := by
  rw [mem_namesOf, mem_namesOf, ownOf_own_cons, List.exists_mem_cons_iff, mem_referencedNames]

theorem mem_namesOf_append : n ∈ namesOf (ps ++ qs) ↔ n ∈ namesOf ps ∨ n ∈ namesOf qs := by
  simp only [mem_namesOf, ownOf_append, List.mem_append, or_and_right, exists_or]

end Piece

/-- The names of the pieces of a range, and those of the literal directives in it, are the names of
    the range as a whole and those that markers hide. -/
theorem mem_namesOf_interleave_iff {text : List Char} {cursor stop : Nat} {b : Option Char}
    {ds : List Directive} {rendered : List (Directive × List Piece)} {n : String}
    (hall : List.Forall₂ (fun d r => r.1 = d ∧
      (n ∈ Piece.namesOf r.2 ↔ d.kind = .parameter ∧ n ∈ d.names)) ds rendered)
    (hspans : Ascending cursor stop (ds.map Directive.span))
    (hds : ∀ d ∈ ds, d.StandsIn text ∧ d.kind ≠ .optional)
    (hstop : ∃ (k : Directive.Kind) (rest : List Char), text.drop stop = k.closing ++ rest) :
    (n ∈ Piece.namesOf (interleave text cursor stop rendered) ∨
        ∃ d ∈ ds, d.kind = .literal ∧ n ∈ d.names) ↔
      n ∈ namesFrom b (Span.slice ⟨cursor, stop⟩ text) ∨
        (mayPrecede b = false ∧ ⟨n, 0⟩ ∈ references (text.drop cursor)) ∨
          ∃ d ∈ ds, d.Hides text n := by
  -- Behind each directive the range is read anew, behind the last character of its marker.
  induction hall generalizing cursor b with
  | nil =>
    obtain ⟨k, rest, hrest⟩ := hstop
    rw [interleave, Piece.mem_namesOf_own_cons, mem_namesFrom_none b,
      Directive.mem_references_zero_drop (.inr rfl) hspans.le hrest]
    simp [Piece.namesOf]
  | @cons d r ds rendered hr hmore ih =>
    obtain ⟨e, ps⟩ := r
    obtain ⟨rfl, hps⟩ := hr
    obtain ⟨hstart, -, hrest⟩ := hspans
    obtain ⟨hstands, hkind⟩ := hds e List.mem_cons_self
    have hfirst : cursor ≤ e.start := hstart
    have hdrop := hstands.drop_start
    rw [Directive.marker, List.append_assoc, List.append_assoc] at hdrop
    have hbehind := ih (b := e.kind.closing.getLast?) hrest
      (fun d hd => hds d (List.mem_cons_of_mem e hd))
    rw [mayPrecede_marker (.inr rfl)] at hbehind
    have hinside := e.mem_names_iff n
    have hboth : e.kind = .parameter ∨ e.kind = .literal := by
      cases hcases : e.kind with
      | optional => exact absurd hcases hkind
      | literal => exact .inr rfl
      | parameter => exact .inl rfl
    rw [interleave, Piece.mem_namesOf_own_cons, Piece.mem_namesOf_append, hps,
      mem_namesFrom_none b, hstands.mem_namesFrom_slice hfirst hrest.le,
      Directive.mem_references_zero_drop (.inl rfl) hfirst hdrop, List.exists_mem_cons_iff,
      List.exists_mem_cons_iff, Directive.Hides]
    grind only

/-! ### Optional directives -/

section

variable {p : Parameters} {text : List Char} {s : Slot} {ps : List Piece} {dialect : Dialect}
  {n : String}

/-- The names of references that the pieces of a slot's body have and the whole body has not. -/
def Slot.Hides (s : Slot) (text : List Char) (n : String) : Prop :=
  ∃ d ∈ s.children, d.Hides text n

/-- Every name that is bound for the slot, or that a literal directive in it refers to, has a
    value. -/
def Slot.Supplied (s : Slot) (p : Parameters) (ps : List Piece) : Prop :=
  (∀ n ∈ Piece.namesOf ps, p.isPresent n = true) ∧
    ∀ d ∈ s.children, d.kind = .literal → ∀ n ∈ d.names, p.isPresent n = true

/-- The names of a child that is no optional directive: a parameter directive's are its body's. -/
theorem Directive.mem_namesOf_childPieces {c : Directive} (h : c.childPieces dialect p = .ok ps)
    (hkind : c.kind ≠ .optional) (n : String) :
    n ∈ Piece.namesOf ps ↔ c.kind = .parameter ∧ n ∈ c.names := by
  have hps := Directive.pieces_cases h
  cases hcases : c.kind with
  | optional => exact absurd hcases hkind
  | parameter =>
    rw [hcases] at hps
    rw [hps, Piece.mem_namesOf_own_cons, Directive.names, mem_referencedNames]
    simp [Piece.namesOf]
  | literal =>
    rw [hcases] at hps
    obtain ⟨new, rfl⟩ := hps
    simp [Piece.namesOf, Piece.names]

/-- A slot has the closing marker of its directive behind its body. -/
theorem Directive.StandsIn.exists_drop_eq {d : Directive} (h : d.StandsIn text) :
    ∃ (k : Kind) (rest : List Char), text.drop d.bodySpan.stop = k.closing ++ rest := by
  obtain ⟨rest, hrest⟩ := h.closing_prefix
  exact ⟨d.kind, rest, hrest.symm⟩

/-- The names that are bound for a kept slot, and those of the literal directives in it, are the
    names that were asked for and those that markers hide. -/
theorem Slot.mem_namesOf_pieces_iff (hs : s ∈ layout text) (hkind : s.directive.kind = .optional)
    (h : s.pieces text dialect p = .ok ps) (hkept : p.allPresent s.directive.names = true)
    (n : String) :
    (n ∈ Piece.namesOf ps ∨ ∃ d ∈ s.children, d.kind = .literal ∧ n ∈ d.names) ↔
      n ∈ s.directive.names ∨ s.Hides text n := by
  have hdirective := standsIn_of_mem_layout hs List.mem_cons_self
  have hps := Directive.pieces_cases h
  rw [hkind] at hps
  rcases hps with ⟨-, hbody⟩ | ⟨habsent, -⟩
  · obtain ⟨rendered, rfl, hall⟩ := exists_rendered hbody
    have hchildren : ∀ d ∈ s.children, d.StandsIn text ∧ d.kind ≠ .optional := fun d hd =>
      ⟨standsIn_of_mem_layout hs (List.mem_cons_of_mem s.directive hd),
        kind_ne_optional_of_child hs hd⟩
    -- A nested parameter gives the names in its body, a nested literal none.
    have hrendered : List.Forall₂ (fun d r => r.1 = d ∧
        (n ∈ Piece.namesOf r.2 ↔ d.kind = .parameter ∧ n ∈ d.names)) s.children rendered := by
      refine ((List.forall₂_and_left _ _).2 ⟨fun d hd => (hchildren d hd).2, hall⟩).imp ?_
      rintro d r ⟨hd, hfirst, hr⟩
      exact ⟨hfirst, Directive.mem_namesOf_childPieces hr hd n⟩
    have hiff := mem_namesOf_interleave_iff (b := none) hrendered (nested_of_mem_layout hs)
      hchildren hdirective.exists_drop_eq
    have hnone : mayPrecede none = true := rfl
    rw [hiff, ← mem_referencedNames, hnone]
    have hslice : Span.slice ⟨s.directive.bodySpan.start, s.directive.bodySpan.stop⟩ text =
        s.directive.body := hdirective.slice_bodySpan
    simp [hslice, Directive.names, Slot.Hides]
  · rw [hkept] at habsent
    cases habsent

/-- The body of a slot refers to every name that a literal directive in it refers to. -/
theorem Slot.mem_names_of_literal (hs : s ∈ layout text) {d : Directive} (hd : d ∈ s.children)
    (hkind : d.kind = .literal) (hn : n ∈ d.names) : n ∈ s.directive.names := by
  have hdirective := standsIn_of_mem_layout hs List.mem_cons_self
  have hstands := standsIn_of_mem_layout hs (List.mem_cons_of_mem s.directive hd)
  have hspan := (nested_of_mem_layout hs).of_mem (List.mem_map_of_mem hd)
  have hopening : n ∈ namesFrom d.kind.opening.getLast? d.body := by
    rcases (d.mem_names_iff n).1 hn with h | ⟨hparameter, -⟩
    · exact h
    · rw [hkind] at hparameter
      cases hparameter
  have hslice : Span.slice ⟨s.directive.bodySpan.start, s.directive.bodySpan.stop⟩ text =
      s.directive.body := hdirective.slice_bodySpan
  rw [Directive.names, mem_referencedNames, ← hslice,
    hstands.mem_namesFrom_slice hspan.1 hspan.2.2]
  exact .inr (.inl hopening)

/-- A rendered item is a part of the rendered range. -/
theorem exists_infix_interleave {α : Type} {directive : α → Directive}
    {pieces : α → Except Error (List Piece)} {cursor stop : Nat} {items : List α}
    {rendered : List (Directive × List Piece)} {a : α}
    (hall : List.Forall₂ (fun a r => r.1 = directive a ∧ pieces a = .ok r.2) items rendered)
    (ha : a ∈ items) :
    ∃ ps, pieces a = .ok ps ∧ ps <:+: interleave text cursor stop rendered := by
  induction hall generalizing cursor with
  | nil => exact absurd ha List.not_mem_nil
  | @cons b r items rendered hr hmore ih =>
    obtain ⟨d, ps⟩ := r
    rw [interleave]
    rcases List.mem_cons.1 ha with rfl | ha
    · exact ⟨ps, hr.2, [.own _], _, rfl⟩
    · obtain ⟨ps', hps', hinfix⟩ := @ih d.span.stop ha
      exact ⟨ps', hps', hinfix.trans ((List.suffix_append _ _).trans
        (List.suffix_cons _ _)).isInfix⟩

end

/-- **An optional directive that is kept has the value of every name that it asks for.** For a call
    that resolves, a slot with an optional directive either is left out, because the call has no
    value for a name in its body, or its pieces are part of the text. Then the names of its pieces
    and of the literal directives in it are those of its body and those that the markers `@@` hide,
    and all of them have a value if the hidden ones have. -/
theorem Template.supplied_of_included (t : Template) (p : Parameters) (st : Statement) (s : Slot)
    (h : t.resolve p = .ok st) (hs : s ∈ t.slots) (hkind : s.directive.kind = .optional) :
    ∃ whole ps, st.sql = String.ofList (Piece.textOf whole) ∧
      st.parameters = p.subset (Piece.namesOf whole) ∧
      s.pieces t.text t.dialect p = .ok ps ∧ ps <:+: whole ∧
      (p.allPresent s.directive.names = false ∧ ps = [] ∨
        p.allPresent s.directive.names = true ∧
          (∀ d ∈ s.children, d.kind = .literal → ∀ n ∈ d.names, p.isPresent n = true) ∧
          (∀ n, (n ∈ Piece.namesOf ps ∨ ∃ d ∈ s.children, d.kind = .literal ∧ n ∈ d.names) ↔
            n ∈ s.directive.names ∨ s.Hides t.text n) ∧
          (s.Supplied p ps ↔ ∀ n, s.Hides t.text n → p.isPresent n = true)) := by
  obtain ⟨-, whole, hwhole, hsql, hparameters, -⟩ := Template.pieces_of_resolve h
  obtain ⟨rendered, rfl, hall⟩ := exists_rendered hwhole
  obtain ⟨ps, hps, hinfix⟩ := exists_infix_interleave hall hs
  refine ⟨_, ps, hsql, hparameters, hps, hinfix, ?_⟩
  cases hkept : p.allPresent s.directive.names with
  | false =>
    have hcases := Directive.pieces_cases hps
    rw [hkind] at hcases
    simpa [hkept] using hcases
  | true =>
    have hnames := Slot.mem_namesOf_pieces_iff hs hkind hps hkept
    have hbody : ∀ n ∈ s.directive.names, p.isPresent n = true := List.all_eq_true.1 hkept
    have hliteral : ∀ d ∈ s.children, d.kind = .literal → ∀ n ∈ d.names, p.isPresent n = true :=
      fun d hd hd' n hn => hbody n (Slot.mem_names_of_literal hs hd hd' hn)
    refine .inr ⟨rfl, hliteral, hnames, fun hall n hn => ?_,
      fun hhidden => ⟨fun n hn => ?_, hliteral⟩⟩
    · -- A hidden name is that of a piece, or of a literal directive.
      rcases (hnames n).2 (.inr hn) with hn | ⟨d, hd, hd', hn⟩
      · exact hall.1 n hn
      · exact hliteral d hd hd' n hn
    · exact ((hnames n).1 (.inl hn)).elim (hbody n) (hhidden n)

/-- A template with a parameter directive in an optional one, behind whose opening marker its
    reference begins. -/
def hidingTemplate : Template where
  name := "T"
  dialect := .sqlite
  connection := "DbContext"
  binding := none
  sql := "SELECT 1 <%=AND a = @a AND b = @@@b@@%>"
  source := none

/-- Its slot. -/
def hidingSlot : Slot :=
  ⟨⟨.optional, 9, "AND a = @a AND b = @@@b@@".toList⟩, [⟨.parameter, 31, "@b".toList⟩]⟩

theorem layout_hidingTemplate : layout hidingTemplate.text = [hidingSlot] := by
  rw [layout_of_pairwise (by decide +kernel)]
  decide +kernel

theorem malformed_hidingTemplate : hidingTemplate.malformed = [] := by
  rw [Template.malformed_eq_nil_iff, keptDirectives, layout_hidingTemplate]
  decide

/-- The slot asks for `a` only and hides `b`. -/
theorem names_hidingSlot : hidingSlot.directive.names = ["a"] := by decide

/-- The slot hides the name behind the marker, and no other one. -/
theorem eq_of_hides_hidingSlot {n : String} (h : hidingSlot.Hides hidingTemplate.text n) :
    n = "b" := by
  obtain ⟨d, hd, -, hn⟩ := h
  cases List.mem_singleton.1 hd
  have hbody : references "@b".toList = [⟨"b", 0⟩] := by decide
  have hbehind : references (hidingTemplate.text.drop (Directive.span
      ⟨.parameter, 31, "@b".toList⟩).stop) = [] := by decide
  rw [hbody, hbehind] at hn
  simpa using hn

/-- A call with a value for `a` alone. -/
def hidingCall : Parameters := .ofList [("a", .int 1)]

/-- The slot is one of the template. -/
theorem mem_slots_hidingTemplate : hidingSlot ∈ hidingTemplate.slots := by
  rw [Template.slots, layout_hidingTemplate]
  exact List.mem_cons_self

/-- With a value for `b` too, everything that the slot binds has one. -/
theorem Template.supplied_of_included_hiding :
    ∃ st ps, hidingTemplate.resolve (hidingCall.insert "b" (.int 2)) = .ok st ∧
      hidingSlot ∈ hidingTemplate.slots ∧ hidingSlot.directive.kind = .optional ∧
      hidingSlot.pieces hidingTemplate.text hidingTemplate.dialect
        (hidingCall.insert "b" (.int 2)) = .ok ps ∧
      hidingSlot.Supplied (hidingCall.insert "b" (.int 2)) ps := by
  obtain ⟨st, hst, -⟩ := resolve_replaces hidingTemplate (hidingCall.insert "b" (.int 2))
    (malformed_eq_nil_iff.1 malformed_hidingTemplate)
  obtain ⟨whole, ps, -, -, hps, -, hcases⟩ := supplied_of_included hidingTemplate
    (hidingCall.insert "b" (.int 2)) st hidingSlot hst mem_slots_hidingTemplate rfl
  refine ⟨st, ps, hst, mem_slots_hidingTemplate, rfl, hps, ?_⟩
  rw [names_hidingSlot] at hcases
  rcases hcases with ⟨habsent, -⟩ | ⟨-, -, -, hiff⟩
  · exact absurd habsent (by decide)
  · refine hiff.2 fun n hn => ?_
    obtain rfl := eq_of_hides_hidingSlot hn
    decide

/-- Without a value for `b` the slot is kept as well, and `b` is bound to null. -/
theorem Template.exists_included_missing :
    ∃ st ps, hidingTemplate.resolve hidingCall = .ok st ∧ hidingSlot ∈ hidingTemplate.slots ∧
      hidingSlot.directive.kind = .optional ∧
      hidingSlot.pieces hidingTemplate.text hidingTemplate.dialect hidingCall = .ok ps ∧
      "b" ∈ Piece.namesOf ps ∧ hidingCall.isPresent "b" = false ∧
      st.sql = "SELECT 1 AND a = @a AND b = @b" ∧ st.bind.values = [.int 1, .null] := by
  have hslot : hidingSlot.pieces hidingTemplate.text hidingTemplate.dialect hidingCall =
      .ok [.own "AND a = @a AND b = ".toList, .own "@b".toList, .own []] := rfl
  have hpieces : hidingTemplate.pieces hidingCall =
      .ok [.own "SELECT 1 ".toList, .own "AND a = @a AND b = ".toList, .own "@b".toList, .own [],
        .own []] := by
    rw [pieces, slots, layout_hidingTemplate]
    rfl
  obtain ⟨st, hst, hsql, hparameters, hdialect⟩ := exists_resolve malformed_hidingTemplate hpieces
  have htext : st.sql.toList = "SELECT 1 AND a = @a AND b = @b".toList := by
    rw [hsql, String.toList_ofList]
    decide
  have hnames : Piece.namesOf [.own "SELECT 1 ".toList, .own "AND a = @a AND b = ".toList,
      .own "@b".toList, .own [], .own []] = ["a", "b"] := by decide
  have hbound : (Sql.rewrite st.dialect.placeholderStyle
      "SELECT 1 AND a = @a AND b = @b".toList).names = ["a", "b"] := by
    rw [hdialect]
    decide +kernel
  refine ⟨st, _, hst, mem_slots_hidingTemplate, rfl, hslot, by decide, by decide, ?_, ?_⟩
  · rw [← String.toList_inj, htext]
  · rw [Statement.bind, bindText, htext, hbound, hparameters, hnames]
    rfl

end QueryBook
