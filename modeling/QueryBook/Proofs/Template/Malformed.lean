import QueryBook.Proofs.Template.Batch
import QueryBook.Proofs.Text.Order

namespace QueryBook

/-!
# When resolving fails

Whether a template resolves is settled before a call is looked at: a directive that counts and
refers to no parameter spoils every call, even inside a block that the call leaves out.

* `Template.Spoils`, `Template.Blames` — the markers of such directives, and the one reported.
* `Template.blames_iff` — it is the first of the sorted markers.
* `Template.resolve_eq_error_iff` — calls and batches fail for no other reason.
-/

/-- A body that refers to a name is rendered for every call. -/
theorem Directive.exists_render {d : Directive} (h : d.isMalformed = false) (dialect : Dialect)
    (p : Parameters) : ∃ new, d.kind.render d.body dialect p = .ok new := by
  have hnames : (referencedNames d.body).isEmpty = false := h
  unfold Kind.render
  simp only [hnames]
  cases d.kind <;> exact ⟨_, rfl⟩

namespace Template

variable {t : Template} {p : Parameters} {marker marker' : String}

/-- The marker is that of a directive that counts, at the top or inside another one, and that refers
    to no parameter. -/
def Spoils (t : Template) (marker : String) : Prop :=
  ∃ d ∈ keptDirectives t.text, d.names = [] ∧ String.ofList d.marker = marker

/-- Of the markers that spoil a template this one comes first, in the order of bytes. -/
def Blames (t : Template) (marker : String) : Prop :=
  t.Spoils marker ∧ ∀ marker', t.Spoils marker' → Text.compareBytes marker marker' ≠ .gt

/-- What a template is reported for are the markers that spoil it. -/
theorem mem_malformed_iff : marker ∈ t.malformed ↔ t.Spoils marker := by
  simp only [malformed, Spoils, List.mem_mergeSort, List.mem_map, List.mem_filter,
    Directive.isMalformed, List.isEmpty_iff, and_assoc]

/-- The markers that spoil a template are in the order of bytes. -/
theorem pairwise_malformed (t : Template) : t.malformed.Pairwise (· ≤ ·) := by
  refine (List.pairwise_mergeSort ?_ ?_ _).imp of_decide_eq_true
  · intro a b c hab hbc
    exact decide_eq_true (String.le_trans (of_decide_eq_true hab) (of_decide_eq_true hbc))
  · intro a b
    simpa using String.le_total a b

/-- A template blames one marker at most. -/
theorem Blames.unique (h : t.Blames marker) (h' : t.Blames marker') : marker = marker' :=
  String.le_antisymm (Text.compareBytes_ne_gt.1 (h.2 marker' h'.1))
    (Text.compareBytes_ne_gt.1 (h'.2 marker h.1))

/-- The first of the sorted markers is the one to blame. -/
theorem blames_iff : t.Blames marker ↔ ∃ more, t.malformed = marker :: more := by
  -- The markers are sorted, so the first one is the smallest.
  have hhead : ∀ first more, t.malformed = first :: more → t.Blames first := by
    intro first more hcons
    have hsorted := t.pairwise_malformed
    rw [hcons, List.pairwise_cons] at hsorted
    refine ⟨mem_malformed_iff.1 (hcons ▸ List.mem_cons_self), fun m hm => ?_⟩
    have hmem := mem_malformed_iff.2 hm
    rw [hcons, List.mem_cons] at hmem
    rw [Text.compareBytes_ne_gt]
    rcases hmem with rfl | hmem
    · exact String.le_refl m
    · exact hsorted.1 m hmem
  constructor
  · intro h
    cases hcases : t.malformed with
    | nil => exact absurd (mem_malformed_iff.2 h.1) (by simp [hcases])
    | cons first more => exact ⟨more, by rw [(hhead first more hcases).unique h]⟩
  · rintro ⟨more, hcons⟩
    exact hhead marker more hcons

/-- A template without any such directive has a statement for every call. -/
theorem exists_ok_of_malformed_eq_nil (h : t.malformed = []) (p : Parameters) :
    ∃ s, t.resolve p = .ok s := by
  obtain ⟨s, hs, -⟩ := t.resolve_replaces p (malformed_eq_nil_iff.1 h)
  exact ⟨s, hs⟩

/-- Resolving fails for the first of the markers that spoil the template, and for nothing else. -/
theorem resolve_eq_error_iff_blames {e : Error} :
    t.resolve p = .error e ↔ ∃ marker, t.Blames marker ∧ e = .malformedDirective t.name marker := by
  simp only [blames_iff]
  cases hcases : t.malformed with
  | nil =>
    obtain ⟨s, hs⟩ := exists_ok_of_malformed_eq_nil hcases p
    simp [hs]
  | cons first more => simp [resolve, hcases, eq_comm]

/-- Some marker is blamed as soon as there is one to blame. -/
theorem exists_blames_iff :
    (∃ marker, t.Blames marker) ↔ ∃ d ∈ keptDirectives t.text, d.names = [] := by
  constructor
  · rintro ⟨marker, ⟨d, hd, hnames, -⟩, -⟩
    exact ⟨d, hd, hnames⟩
  · rintro ⟨d, hd, hnames⟩
    have hmem : String.ofList d.marker ∈ t.malformed := mem_malformed_iff.2 ⟨d, hd, hnames, rfl⟩
    obtain ⟨first, more, hcons⟩ := List.exists_cons_of_ne_nil (List.ne_nil_of_mem hmem)
    exact ⟨first, blames_iff.2 ⟨more, hcons⟩⟩

/-- Without a literal directive a batch fails just like its first call. -/
theorem resolveBatch_eq_error_iff (h : t.directives.literal = []) {calls : List Parameters}
    {e : Error} : t.resolveBatch calls = .error e ↔
      t.resolve (calls.head?.getD Dictionary.empty) = .error e := by
  have hliteral : t.hasLiteral = false := by simp [hasLiteral, h]
  rw [resolveBatch, hliteral]
  cases t.resolve (calls.head?.getD Dictionary.empty) <;> simp [bind, Except.bind]

/-- **Resolving fails for the template alone.** All calls fail or none does, and with one error;
    they fail if a directive that counts refers to no parameter, and the error names the first such
    marker. Without such a directive, every one that counts is rendered for every call. A batch
    fails if a literal directive is found, whether it counts or not, and else with the error of a
    call. -/
theorem resolve_eq_error_iff (t : Template) (p : Parameters) :
    (∀ q e, t.resolve p = .error e ↔ t.resolve q = .error e) ∧
      ((∃ e, t.resolve p = .error e) ↔ ∃ d ∈ keptDirectives t.text, d.names = []) ∧
      (∀ e, t.resolve p = .error e ↔
        ∃ marker, t.Blames marker ∧ e = .malformedDirective t.name marker) ∧
      (t.malformed = [] → (∃ ps, t.pieces p = .ok ps) ∧
        ∀ d ∈ keptDirectives t.text, ∃ new, d.kind.render d.body t.dialect p = .ok new) ∧
      ∀ calls e, t.resolveBatch calls = .error e ↔
        t.directives.literal ≠ [] ∧ e = .literalInBatch t.name ∨
          t.directives.literal = [] ∧ t.resolve p = .error e := by
  have hblames : ∀ q e, t.resolve q = .error e ↔
      ∃ marker, t.Blames marker ∧ e = .malformedDirective t.name marker := fun q e =>
    resolve_eq_error_iff_blames
  refine ⟨fun q e => (hblames p e).trans (hblames q e).symm, ?_, hblames p, fun hnil => ?_,
    fun calls e => ?_⟩
  · rw [← exists_blames_iff]
    constructor
    · rintro ⟨e, he⟩
      obtain ⟨marker, hmarker, -⟩ := (hblames p e).1 he
      exact ⟨marker, hmarker⟩
    · rintro ⟨marker, hmarker⟩
      exact ⟨_, (hblames p _).2 ⟨marker, hmarker, rfl⟩⟩
  · have hgood := malformed_eq_nil_iff.1 hnil
    obtain ⟨ps, hps, -⟩ := exists_pieces hgood p
    exact ⟨⟨ps, hps⟩, fun d hd => Directive.exists_render (hgood d hd) t.dialect p⟩
  · -- What is blamed does not depend on the call, so the first call of a batch does not matter.
    rw [hblames p e, ← hblames (calls.head?.getD Dictionary.empty) e]
    by_cases hliteral : t.directives.literal = []
    · simp [hliteral, resolveBatch_eq_error_iff hliteral]
    · have hhas : t.hasLiteral = true := by simpa [hasLiteral] using hliteral
      simp [resolveBatch, hhas, hliteral, eq_comm]

/-- A template with a malformed directive inside an optional one, and another behind it. -/
def spoiled : Template where
  name := "T"
  dialect := .sqlite
  connection := "DbContext"
  binding := none
  sql := "SELECT 1 <%=AND a = @a <R%=x%R>%> @@b@@"
  source := none

theorem layout_spoiled : layout spoiled.text =
    [⟨⟨.optional, 9, "AND a = @a <R%=x%R>".toList⟩, [⟨.literal, 23, ['x']⟩]⟩,
      ⟨⟨.parameter, 34, ['b']⟩, []⟩] := by
  rw [layout_of_pairwise (by decide +kernel)]
  decide +kernel

/-- The markers of the two malformed directives spoil the template. -/
theorem spoils_spoiled_iff : spoiled.Spoils marker ↔ marker = "<R%=x%R>" ∨ marker = "@@b@@" := by
  have hkept : (keptDirectives spoiled.text).filter Directive.isMalformed =
      [⟨.literal, 23, ['x']⟩, ⟨.parameter, 34, ['b']⟩] := by
    rw [keptDirectives, layout_spoiled]
    decide
  have hmarkers : [(⟨.literal, 23, ['x']⟩ : Directive), ⟨.parameter, 34, ['b']⟩].map
      (fun d => String.ofList d.marker) = ["<R%=x%R>", "@@b@@"] := by decide
  rw [← mem_malformed_iff, malformed, hkept, List.mem_mergeSort, hmarkers]
  simp

/-- The template has a literal directive, which a batch does not take. -/
theorem literal_spoiled_ne_nil : spoiled.directives.literal ≠ [] := by
  have hslot : ⟨⟨.optional, 9, "AND a = @a <R%=x%R>".toList⟩, [⟨.literal, 23, ['x']⟩]⟩ ∈
      layout spoiled.text := by
    rw [layout_spoiled]
    exact List.mem_cons_self
  exact List.ne_nil_of_mem (Extraction.mem_of_mem_all
    (mem_all_of_mem_layout hslot (List.mem_cons_of_mem _ List.mem_cons_self)))

/-- The call leaves out the block with the marker that it fails for; a batch fails for another
    reason. A template that nothing spoils has pieces for every call. -/
theorem resolve_eq_error_iff_spoiled :
    (∃ s ∈ spoiled.slots, s.directive.kind = .optional ∧ s.directive.kind.render s.directive.body
      spoiled.dialect Dictionary.empty = .ok []) ∧
      (∀ q, spoiled.resolve q = .error (.malformedDirective "T" "<R%=x%R>")) ∧
      spoiled.resolveBatch [] = .error (.literalInBatch "T") ∧
      seamTemplate.malformed = [] ∧ ∃ ps, seamTemplate.pieces Dictionary.empty = .ok ps := by
  have hblames : spoiled.Blames "<R%=x%R>" := by
    refine ⟨spoils_spoiled_iff.2 (.inl rfl), fun marker hmarker => ?_⟩
    rcases spoils_spoiled_iff.1 hmarker with rfl | rfl <;> decide
  refine ⟨?_, fun q => ?_, ?_, malformed_seamTemplate, ?_⟩
  · refine ⟨⟨⟨.optional, 9, "AND a = @a <R%=x%R>".toList⟩, [⟨.literal, 23, ['x']⟩]⟩, ?_, rfl, ?_⟩
    · rw [slots, layout_spoiled]
      exact List.mem_cons_self
    · rfl
  · obtain ⟨-, -, herror, -⟩ := resolve_eq_error_iff spoiled q
    exact (herror _).2 ⟨_, hblames, rfl⟩
  · obtain ⟨-, -, -, -, hbatch⟩ := resolve_eq_error_iff spoiled Dictionary.empty
    exact (hbatch [] _).2 (.inl ⟨literal_spoiled_ne_nil, rfl⟩)
  · obtain ⟨-, -, -, hpieces, -⟩ := resolve_eq_error_iff seamTemplate Dictionary.empty
    exact (hpieces malformed_seamTemplate).1

end Template

end QueryBook
