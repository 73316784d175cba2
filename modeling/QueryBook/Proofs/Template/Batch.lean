import QueryBook.Proofs.Sql.Occurrences
import QueryBook.Proofs.Template.Replacement

namespace QueryBook

/-!
# What a batch binds and what single calls bind

A batch reads the names of its parameters from the finished text, a single call from the pieces that
make up the text. A name can come about where two pieces meet: `@` at the end of one and `x` at the
beginning of the next. The batch binds its value, the single call binds null.

* `Piece.seamNames` — the names that are bound in the text and that no piece refers to.
* `Template.alike_of_isPresent_eq` — without literal directives, calls look the same to a template
  if they agree on which names of the optional directives are present.
* `Template.resolveBatch_binds` — the batch succeeds with the first call, has its text, and binds
  the values of every call; a call on its own binds the same values exactly if its seam names have
  none.
* `Template.exists_sets_ne_values` — a call that binds other values alone than in a batch.
-/

variable {p q : Parameters}

/-! ### Calls that share the text of a batch -/

/-- Without literal directives only the presence of the names in optional ones is read. -/
theorem Template.alike_of_isPresent_eq {t : Template} (hliteral : t.hasLiteral = false)
    (h : ∀ d ∈ t.directives.optional, ∀ n ∈ d.names, p.isPresent n = q.isPresent n) :
    t.Alike p q := by
  intro d hd
  obtain ⟨s, hs, hd⟩ := List.mem_flatMap.1 hd
  have hmem := Extraction.mem_of_mem_all (mem_all_of_mem_layout hs hd)
  unfold Directive.Alike
  cases hkind : d.kind with
  | optional =>
    rw [hkind] at hmem
    exact h d hmem
  | literal =>
    rw [hkind] at hmem
    have hnil : t.directives.literal = [] := by simpa [Template.hasLiteral] using hliteral
    exact absurd (hnil ▸ hmem : d ∈ []) List.not_mem_nil
  | parameter => trivial

/-! ### The names of a batch and of a call -/

/-- The names that are bound in the text of a row of pieces and that no piece refers to: they come
    about where pieces meet. -/
def Piece.seamNames (style : PlaceholderStyle) (ps : List Piece) : List String :=
  (Sql.rewrite style (Piece.textOf ps)).names.filter fun n => n ∉ Piece.namesOf ps

/-- Two subsets give the same values for some names exactly if each name that one of them lacks has
    no value. -/
theorem Parameters.valuesOf_subset_eq_iff {names wide narrow : List String}
    (hwide : ∀ n ∈ names, n ∈ wide) :
    (p.subset wide).valuesOf names = (p.subset narrow).valuesOf names ↔
      ∀ n ∈ names, n ∉ narrow → n ≠ connectionPrefixName → (p.get? n).getD .null = .null := by
  rw [valuesOf, valuesOf, List.map_inj_left]
  refine forall₂_congr fun n hn => ?_
  rw [get?_subset, get?_subset]
  by_cases hroute : n = connectionPrefixName
  · simp [hroute]
  · by_cases hnarrow : n ∈ narrow <;> simp [hroute, hnarrow, hwide n hn]

/-- What a subset gives for names that it covers: all values but that of the name which routes the
    call. -/
theorem Parameters.valuesOf_subset {names wide : List String} (hwide : ∀ n ∈ names, n ∈ wide) :
    (p.subset wide).valuesOf names = Parameters.valuesOf (p.erase connectionPrefixName) names := by
  rw [valuesOf, valuesOf, List.map_inj_left]
  intro n hn
  rw [get?_subset, Dictionary.get?_erase]
  by_cases hroute : n = connectionPrefixName
  · simp [hroute]
  · simp [hroute, Ne.symm hroute, hwide n hn]

/-- What a successful call says about the template and its pieces. -/
theorem Template.pieces_of_resolve {t : Template} {s : Statement} (h : t.resolve p = .ok s) :
    t.malformed = [] ∧ ∃ ps, t.pieces p = .ok ps ∧ s.sql = String.ofList (Piece.textOf ps) ∧
      s.parameters = p.subset (Piece.namesOf ps) ∧ s.dialect = t.dialect := by
  unfold Template.resolve at h
  cases hmalformed : t.malformed with
  | cons marker more => simp [hmalformed] at h
  | nil =>
    rw [hmalformed] at h
    cases hps : t.pieces p with
    | error e =>
      rw [hps] at h
      cases h
    | ok ps =>
      rw [hps] at h
      cases h
      exact ⟨rfl, ps, rfl, rfl, rfl, rfl⟩

/-! ### The batch and the single calls -/

/-- **A batch binds what the single calls would bind, except for names that no piece refers to.**
    If the first call of a batch resolves, so does the batch. It has the text of that call and, for
    every call, the values of all names that the text binds, without the one that routes the call. A
    call with the same presence of the names in optional directives resolves on its own to the same
    text, and it binds the same values exactly if its seam names have no value. -/
theorem Template.resolveBatch_binds (t : Template) (p : Parameters) (more : List Parameters)
    (s : Statement) (hliteral : t.hasLiteral = false) (hs : t.resolve p = .ok s) :
    ∃ b ps, t.resolveBatch (p :: more) = .ok b ∧ t.pieces p = .ok ps ∧ b.bind.sql = s.bind.sql ∧
      b.bind.sets = (p :: more).map (fun q => Parameters.valuesOf (q.erase connectionPrefixName)
        (Sql.rewrite t.dialect.placeholderStyle s.sql.toList).names) ∧
      ∀ (i : Nat) (q : Parameters), (p :: more)[i]? = some q →
        (∀ d ∈ t.directives.optional, ∀ n ∈ d.names, p.isPresent n = q.isPresent n) →
        ∃ s', t.resolve q = .ok s' ∧ s'.bind.sql = s.bind.sql ∧
          (b.bind.sets[i]? = some s'.bind.values ↔
            ∀ n ∈ Piece.seamNames t.dialect.placeholderStyle ps, n ≠ connectionPrefixName →
              (q.get? n).getD .null = .null) := by
  obtain ⟨hmalformed, ps, hps, hsql, -, hdialect⟩ := Template.pieces_of_resolve hs
  let b : Batch := ⟨s, (p :: more).map fun q => q.subset (referencedNames s.sql.toList)⟩
  have hb : t.resolveBatch (p :: more) = .ok b := by
    rw [Template.resolveBatch, hliteral, List.head?_cons, Option.getD_some, hs]
    rfl
  let names := (Sql.rewrite t.dialect.placeholderStyle s.sql.toList).names
  have hwide : ∀ n ∈ names, n ∈ referencedNames s.sql.toList := fun n hn =>
    Sql.mem_referencedNames_of_mem_rewrite hn
  have hsets : b.bind.sets =
      (p :: more).map fun q => (q.subset (referencedNames s.sql.toList)).valuesOf names := by
    simp only [b, Batch.bind, hdialect, List.map_map]
    rfl
  refine ⟨b, ps, hb, hps, rfl, ?_, fun i q hi hpresent => ?_⟩
  · rw [hsets]
    exact List.map_congr_left fun q _ => Parameters.valuesOf_subset hwide
  · -- Both calls give the same pieces, so only the values are left to compare.
    have halike : t.Alike p q := Template.alike_of_isPresent_eq hliteral hpresent
    have hq : t.pieces q = .ok ps := (Template.pieces_eq_of_alike halike).symm.trans hps
    obtain ⟨s', hs', hsql', hparameters', hdialect'⟩ := Template.exists_resolve hmalformed hq
    have htext : s'.sql = s.sql := hsql'.trans hsql.symm
    have hvalues : s'.bind.values = (q.subset (Piece.namesOf ps)).valuesOf names := by
      rw [Statement.bind, bindText, htext, hdialect', hparameters']
    refine ⟨s', hs', ?_, ?_⟩
    · rw [Statement.bind, Statement.bind, bindText, bindText, htext, hdialect, hdialect']
    · rw [hsets, List.getElem?_map, hi, Option.map_some, Option.some_inj, hvalues,
        Parameters.valuesOf_subset_eq_iff hwide]
      have hnames : names = (Sql.rewrite t.dialect.placeholderStyle (Piece.textOf ps)).names := by
        simp only [names, hsql, String.toList_ofList]
      simp only [Piece.seamNames, List.mem_filter, decide_eq_true_eq, and_imp, ← hnames]

/-- A template in which a reference begins in front of an optional directive and ends in it. -/
def seamTemplate : Template where
  name := "T"
  dialect := .postgres
  connection := "DbContext"
  binding := none
  sql := "SELECT @<%=x + @y%>"
  source := none

/-- The directive of the template. -/
theorem layout_seamTemplate :
    layout seamTemplate.text = [⟨⟨.optional, 8, "x + @y".toList⟩, []⟩] := by
  rw [layout_of_pairwise (by decide +kernel)]
  decide +kernel

/-- The values of a call of it. -/
def seamCall : Parameters := .ofList [("x", .int 1), ("y", .int 2)]

theorem malformed_seamTemplate : seamTemplate.malformed = [] := by
  rw [Template.malformed_eq_nil_iff, keptDirectives, layout_seamTemplate]
  decide

/-- The pieces of the call: none of them refers to `x`. -/
theorem pieces_seamTemplate : seamTemplate.pieces seamCall =
    .ok [.own "SELECT @".toList, .own "x + @y".toList, .own []] := by
  rw [Template.pieces, Template.slots, layout_seamTemplate]
  rfl

/-- Both names are bound in the joined text. -/
theorem names_seamTemplate (style : PlaceholderStyle) :
    (Sql.rewrite style "SELECT @x + @y".toList).names = ["x", "y"] := by
  cases style <;> decide +kernel

/-- A second call without a value for `x` binds the same alone and in the batch. -/
theorem Template.resolveBatch_binds_seam :
    seamTemplate.hasLiteral = false ∧ ∃ s b s', seamTemplate.resolve seamCall = .ok s ∧
      seamTemplate.resolveBatch [seamCall, seamCall.erase "x"] = .ok b ∧
      (∀ d ∈ seamTemplate.directives.optional, ∀ n ∈ d.names,
        seamCall.isPresent n = Parameters.isPresent (seamCall.erase "x") n) ∧
      seamTemplate.resolve (seamCall.erase "x") = .ok s' ∧
      b.bind.sets[1]? = some s'.bind.values := by
  have hliteral : seamTemplate.hasLiteral = false := by decide +kernel
  have hpresent : ∀ d ∈ seamTemplate.directives.optional, ∀ n ∈ d.names,
      seamCall.isPresent n = Parameters.isPresent (seamCall.erase "x") n := by decide +kernel
  obtain ⟨s, hs, -⟩ := exists_resolve malformed_seamTemplate pieces_seamTemplate
  obtain ⟨b, ps, hb, hps, -, -, hcalls⟩ :=
    resolveBatch_binds seamTemplate seamCall [seamCall.erase "x"] s hliteral hs
  obtain ⟨s', hs', -, hiff⟩ := hcalls 1 (seamCall.erase "x") rfl hpresent
  refine ⟨hliteral, s, b, s', hs, hb, hpresent, hs', hiff.2 ?_⟩
  obtain rfl := Except.ok.inj (hps.symm.trans pieces_seamTemplate)
  have hseam : Piece.seamNames seamTemplate.dialect.placeholderStyle
      [.own "SELECT @".toList, .own "x + @y".toList, .own []] = ["x"] := by decide +kernel
  intro n hn hroute
  rw [hseam, List.mem_singleton] at hn
  subst hn
  rfl

/-- Alone the call binds null where the batch of this one call binds its value, though both run the
    same text. -/
theorem Template.exists_sets_ne_values :
    seamTemplate.hasLiteral = false ∧ ∃ s b, seamTemplate.resolve seamCall = .ok s ∧
      seamTemplate.resolveBatch [seamCall] = .ok b ∧ b.bind.sql = s.bind.sql ∧
      s.bind.values = [.null, .int 2] ∧ b.bind.sets = [[.int 1, .int 2]] := by
  have hliteral : seamTemplate.hasLiteral = false := by decide +kernel
  obtain ⟨s, hs, hsql, hparameters, hdialect⟩ :=
    exists_resolve malformed_seamTemplate pieces_seamTemplate
  have htext : s.sql.toList = "SELECT @x + @y".toList := by
    rw [hsql, String.toList_ofList]
    decide +kernel
  have hwide : referencedNames s.sql.toList = ["x", "y"] := by
    rw [htext]
    decide +kernel
  have hnarrow : Piece.namesOf [.own "SELECT @".toList, .own "x + @y".toList, .own []] = ["y"] := by
    decide +kernel
  refine ⟨hliteral, s, ⟨s, [seamCall.subset ["x", "y"]]⟩, hs, ?_, rfl, ?_, ?_⟩
  · rw [resolveBatch, hliteral, List.head?_cons, Option.getD_some, hs]
    simp only [bind, Except.bind, hwide]
    rfl
  · rw [Statement.bind, bindText, htext, names_seamTemplate, hparameters, hnarrow]
    rfl
  · rw [Batch.bind, htext, names_seamTemplate]
    rfl

end QueryBook
