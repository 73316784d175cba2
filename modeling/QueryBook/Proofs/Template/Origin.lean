import QueryBook.Proofs.Template.Batch
import QueryBook.Proofs.Template.Pieces

namespace QueryBook

/-!
# Where bound values come from

A literal directive splices values into the text as they are, and these may hold anything: further
references, quotes, the end of a name. None of it is read for names. Which values are bound depends
on the ranges of its own text that the template keeps.

* `Parameters.AgreeFor`, `Directive.IgnoresRoute` — two calls that differ only in what is spliced
  and in the name that routes a call.
* `Template.ownOf_pieces_eq` — the own pieces of two such calls are the same.
* `Template.resolve_spliced` — what is bound: the values of the names in the ranges that are kept.
-/

open Text (Span)

/-! ### Calls that differ in what is spliced -/

variable {p q : Parameters}

/-- Two calls differ at most in the name that routes a call and, among names that are not referred
    to, in values that can be spliced. -/
def Parameters.AgreeFor (refers : String → Prop) (p q : Parameters) : Prop :=
  ∀ n, n ≠ connectionPrefixName →
    p.get? n = q.get? n ∨
      ¬ refers n ∧ (p.literal? n).isSome = true ∧ (q.literal? n).isSome = true

/-- Whether a directive is kept does not depend on the name that routes a call. -/
def Directive.IgnoresRoute (p q : Parameters) (d : Directive) : Prop :=
  connectionPrefixName ∈ d.names →
    p.isPresent connectionPrefixName = q.isPresent connectionPrefixName ∨
      ∃ n ∈ d.names, n ≠ connectionPrefixName ∧ p.isPresent n = false

/-- What can be spliced is present. -/
theorem Parameters.isPresent_of_literal? {n : String} (h : (p.literal? n).isSome = true) :
    p.isPresent n = true := by
  unfold Parameters.literal? at h
  unfold Parameters.isPresent
  cases hv : p.get? n with
  | none => simp [hv] at h
  | some v =>
    cases hblank : v.isBlank with
    | true => simp [hv, hblank] at h
    | false => simp [hblank]

/-- Such calls have the same names, but for the one that routes them. -/
theorem Parameters.AgreeFor.isPresent_eq {refers : String → Prop} (h : p.AgreeFor refers q)
    {n : String} (hn : n ≠ connectionPrefixName) : p.isPresent n = q.isPresent n := by
  rcases h n hn with heq | ⟨-, hp, hq⟩
  · rw [Parameters.isPresent, Parameters.isPresent, heq]
  · rw [isPresent_of_literal? hp, isPresent_of_literal? hq]

/-- Both calls keep a directive, or none does. -/
theorem Parameters.AgreeFor.allPresent_eq {refers : String → Prop} (h : p.AgreeFor refers q)
    {d : Directive} (hd : d.IgnoresRoute p q) : p.allPresent d.names = q.allPresent d.names := by
  by_cases hroute : connectionPrefixName ∈ d.names
  · rcases hd hroute with heq | ⟨n, hn, hne, habsent⟩
    · apply Parameters.allPresent_eq
      intro n hn
      by_cases hne : n = connectionPrefixName
      · rw [hne, heq]
      · exact h.isPresent_eq hne
    · -- A name that neither call has drops the directive for both.
      have habsent' : q.isPresent n = false := (h.isPresent_eq hne).symm.trans habsent
      have hfalse : ∀ {r : Parameters}, r.isPresent n = false → r.allPresent d.names = false :=
        fun hr => List.all_eq_false.2 ⟨n, hn, by simp [hr]⟩
      rw [hfalse habsent, hfalse habsent']
  · apply Parameters.allPresent_eq
    intro n hn
    apply h.isPresent_eq
    rintro rfl
    exact hroute hn

/-- The subsets of such calls for names that are referred to are equal. -/
theorem Parameters.AgreeFor.subset_eq {refers : String → Prop} (h : p.AgreeFor refers q)
    {names : List String} (hnames : ∀ n ∈ names, refers n) : p.subset names = q.subset names := by
  have hstep : ∀ n ∈ names, ∀ out, subset.step p out n = subset.step q out n := by
    intro n hn out
    by_cases hne : n = connectionPrefixName
    · rw [subset.step, subset.step, if_pos hne, if_pos hne]
    · rcases h n hne with heq | ⟨hnot, -⟩
      · rw [subset.step, subset.step, heq]
      · exact absurd (hnames n hn) hnot
  rw [subset, subset]
  exact List.foldl_ext _ _ _ fun out n hn => hstep n hn out

/-- The own pieces of a directive are the same if both calls keep it or none does. -/
theorem Directive.ownOf_pieces_eq {d : Directive} {body body' : Except Error (List Piece)}
    {dialect : Dialect} {ps ps' : List Piece}
    (hkept : d.kind = .optional → p.allPresent d.names = q.allPresent d.names)
    (hbody : ∀ bs bs', body = .ok bs → body' = .ok bs' → Piece.ownOf bs = Piece.ownOf bs')
    (h : d.pieces body dialect p = .ok ps) (h' : d.pieces body' dialect q = .ok ps') :
    Piece.ownOf ps = Piece.ownOf ps' := by
  have hps := Directive.pieces_cases h
  have hps' := Directive.pieces_cases h'
  cases hkind : d.kind with
  | parameter =>
    rw [hkind] at hps hps'
    rw [hps, hps']
  | literal =>
    rw [hkind] at hps hps'
    obtain ⟨new, rfl⟩ := hps
    obtain ⟨new', rfl⟩ := hps'
    rfl
  | optional =>
    have heq := hkept hkind
    rw [hkind] at hps hps'
    -- Both calls include the body, or both leave it out.
    rcases hps with ⟨hpresent, hps⟩ | ⟨habsent, rfl⟩
    · rcases hps' with ⟨-, hps'⟩ | ⟨habsent', -⟩
      · exact hbody ps ps' hps hps'
      · exact absurd (hpresent.symm.trans (heq.trans habsent')) (by decide)
    · rcases hps' with ⟨hpresent', -⟩ | ⟨-, rfl⟩
      · exact absurd (habsent.symm.trans (heq.trans hpresent')) (by decide)
      · rfl

/-- The own pieces of a slot are the same if both calls keep the same optional directives in it. -/
theorem Slot.ownOf_pieces_eq {text : List Char} {s : Slot} {dialect : Dialect}
    {ps ps' : List Piece}
    (hkept : ∀ d ∈ s.all, d.kind = .optional → p.allPresent d.names = q.allPresent d.names)
    (h : s.pieces text dialect p = .ok ps) (h' : s.pieces text dialect q = .ok ps') :
    Piece.ownOf ps = Piece.ownOf ps' := by
  refine Directive.ownOf_pieces_eq (hkept s.directive List.mem_cons_self) ?_ h h'
  intro bs bs' hbs hbs'
  obtain ⟨rendered, rfl, hall⟩ := exists_rendered hbs
  obtain ⟨rendered', rfl, hall'⟩ := exists_rendered hbs'
  apply ownOf_interleave
  apply forall₂_of_steps hall hall'
  rintro c hc r r' ⟨hr, hps⟩ ⟨hr', hps'⟩
  refine ⟨hr.trans hr'.symm, ?_⟩
  refine Directive.ownOf_pieces_eq (hkept c (List.mem_cons_of_mem s.directive hc)) ?_ hps hps'
  intro ds ds' hds hds'
  cases hds
  cases hds'
  rfl

/-- Two calls that keep the same optional directives have the same own pieces. -/
theorem Template.ownOf_pieces_eq {t : Template} {ps ps' : List Piece}
    (hkept : ∀ d ∈ keptDirectives t.text, d.kind = .optional →
      p.allPresent d.names = q.allPresent d.names)
    (h : t.pieces p = .ok ps) (h' : t.pieces q = .ok ps') :
    Piece.ownOf ps = Piece.ownOf ps' := by
  obtain ⟨rendered, rfl, hall⟩ := exists_rendered h
  obtain ⟨rendered', rfl, hall'⟩ := exists_rendered h'
  apply ownOf_interleave
  apply forall₂_of_steps hall hall'
  rintro s hs r r' ⟨hr, hps⟩ ⟨hr', hps'⟩
  refine ⟨hr.trans hr'.symm, ?_⟩
  exact Slot.ownOf_pieces_eq (fun d hd => hkept d (List.mem_flatMap.2 ⟨s, hs, hd⟩)) hps hps'

/-! ### What is bound -/

/-- The values that a subset gives for some names. -/
theorem Parameters.getElem?_valuesOf_subset {names wide : List String} {i : Nat} {n : String}
    (h : names[i]? = some n) :
    ((p.subset wide).valuesOf names)[i]? =
      some (if n ∈ wide ∧ n ≠ connectionPrefixName then (p.get? n).getD .null else .null) := by
  rw [valuesOf, List.getElem?_map, h, Option.map_some, get?_subset]
  split <;> rfl

/-- **Spliced text cannot reach bound values.** The text of a statement is a row of pieces, of which
    the own ones are exactly the ranges of its text that the template keeps for the call; these lie
    outside its literal directives. The value at a mark for a name is that of the call, if such a
    range refers to the name and the name does not route the call, and null otherwise, whatever the
    spliced pieces hold. A call that differs only in the name that routes it and in values of names
    that no such range refers to has the same parameters, if no optional directive depends on the
    name that routes the call. -/
theorem Template.resolve_spliced (t : Template) (p : Parameters) (s : Statement)
    (hs : t.resolve p = .ok s) :
    (∃ ps, t.pieces p = .ok ps ∧ s.sql.toList = Piece.textOf ps ∧
      ∀ x, x ∈ Piece.ownOf ps ↔ ∃ range : Span, t.Keeps p range ∧ range.slice t.text = x) ∧
      (∀ range, t.Keeps p range →
        ∀ d ∈ keptDirectives t.text, d.kind = .literal → range.Apart d.span) ∧
      s.bind.values.length =
        (Sql.rewrite t.dialect.placeholderStyle s.sql.toList).names.length ∧
      (∀ (i : Nat) (n : String),
        (Sql.rewrite t.dialect.placeholderStyle s.sql.toList).names[i]? = some n →
        ∃ value, s.bind.values[i]? = some value ∧
          (n ≠ connectionPrefixName ∧ t.RefersTo p n → value = (p.get? n).getD .null) ∧
          (¬ (n ≠ connectionPrefixName ∧ t.RefersTo p n) → value = .null)) ∧
      ∀ q s', t.resolve q = .ok s' → p.AgreeFor (t.RefersTo p) q →
        (∀ d ∈ keptDirectives t.text, d.kind = .optional → d.IgnoresRoute p q) →
        s'.parameters = s.parameters := by
  obtain ⟨-, ps, hps, hsql, hparameters, hdialect⟩ := Template.pieces_of_resolve hs
  have htext : s.sql.toList = Piece.textOf ps := by rw [hsql, String.toList_ofList]
  refine ⟨⟨ps, hps, htext, fun x => Template.mem_ownOf_iff hps⟩,
    fun range hrange => hrange.apart, ?_, ?_, ?_⟩
  · rw [Statement.bind, bindText, hdialect, Parameters.length_valuesOf]
  · intro i n hn
    refine ⟨_, by rw [Statement.bind, bindText, hdialect, hparameters,
      Parameters.getElem?_valuesOf_subset hn], ?_, ?_⟩
    · rintro ⟨hroute, hrefers⟩
      rw [if_pos ⟨(Template.refersTo_iff hps).1 hrefers, hroute⟩]
    · intro hnot
      rw [if_neg fun h => hnot ⟨h.2, (Template.refersTo_iff hps).2 h.1⟩]
  · intro q s' hs' hagree hroute
    obtain ⟨-, ps', hps', -, hparameters', -⟩ := Template.pieces_of_resolve hs'
    have hkept : ∀ d ∈ keptDirectives t.text, d.kind = .optional →
        p.allPresent d.names = q.allPresent d.names := fun d hd hoptional =>
      hagree.allPresent_eq (hroute d hd hoptional)
    -- The same directives stay, so the own pieces are the same text and have the same names.
    have hnames : Piece.namesOf ps' = Piece.namesOf ps := by
      rw [Piece.namesOf_eq, Piece.namesOf_eq, Template.ownOf_pieces_eq hkept hps hps']
    rw [hparameters', hparameters, hnames,
      hagree.subset_eq fun n hn => (Template.refersTo_iff hps).2 hn]

/-- A call that splices a reference to another of its values. -/
def leakCall : Parameters :=
  .ofList [("id", .int 1), ("s", .text "OPEN"), ("c", .sqlLiteral "@secret"), ("secret", .int 7)]

/-- The pieces of the call. -/
def leakPieces : List Piece :=
  [.own "SELECT * FROM o WHERE id=@id ".toList, .own "AND s=@s ORDER BY ".toList,
    .spliced "@secret".toList, .own [], .own [], .own " -- @note".toList, .own []]

theorem pieces_leakCall : ordersTemplate.pieces leakCall = .ok leakPieces := by
  rw [Template.pieces, Template.slots, layout_ordersTemplate]
  rfl

/-- A call that splices something else and goes to another connection. -/
def otherCall : Parameters :=
  (leakCall.insert "c" (.sqlLiteral "day")).insert connectionPrefixName (.text "North")

theorem malformed_ordersTemplate : ordersTemplate.malformed = [] := by
  rw [Template.malformed_eq_nil_iff, keptDirectives, layout_ordersTemplate]
  decide

/-- No directive of the template depends on where a call goes. -/
theorem connectionPrefixName_notMem_names :
    ∀ d ∈ keptDirectives ordersTemplate.text, connectionPrefixName ∉ d.names := by
  rw [keptDirectives, layout_ordersTemplate]
  decide +kernel

/-- The names in what the template keeps for the call; the spliced one is not among them. -/
theorem refersTo_leakCall_iff {n : String} :
    ordersTemplate.RefersTo leakCall n ↔ n ∈ ["id", "s", "note"] := by
  have hnames : Piece.namesOf leakPieces = ["id", "s", "note"] := by decide +kernel
  rw [Template.refersTo_iff pieces_leakCall, hnames]

/-- The two calls differ only in what is spliced and in where they go. -/
theorem agreeFor_leakCall {refers : String → Prop} (h : ¬ refers "c") :
    leakCall.AgreeFor refers otherCall := by
  intro n hn
  by_cases hc : n = "c"
  · subst hc
    exact .inr ⟨h, rfl, rfl⟩
  · refine .inl ?_
    rw [otherCall, Dictionary.get?_insert, if_neg (Ne.symm hn), Dictionary.get?_insert,
      if_neg (Ne.symm hc)]

/-- The names that the template's own text refers to are bound to the values of the call. The
    spliced reference stands in the text and is bound to null, though the call has a value for its
    name; and it makes no difference to another call. -/
theorem Template.resolve_spliced_leak : ∃ s s',
    ordersTemplate.resolve leakCall = .ok s ∧ ordersTemplate.resolve otherCall = .ok s' ∧
      s'.parameters = s.parameters ∧
      s.sql.toList = "SELECT * FROM o WHERE id=@id AND s=@s ORDER BY @secret -- @note".toList ∧
      (Sql.rewrite .dollar s.sql.toList).names = ["id", "s", "secret"] ∧
      s.bind.values[0]? = some (.int 1) ∧ s.bind.values[1]? = some (.text "OPEN") ∧
      s.bind.values[2]? = some .null := by
  obtain ⟨s, hs, hsql, -⟩ := exists_resolve malformed_ordersTemplate pieces_leakCall
  obtain ⟨ps', hps', -⟩ := exists_pieces (malformed_eq_nil_iff.1 malformed_ordersTemplate) otherCall
  obtain ⟨s', hs', -⟩ := exists_resolve malformed_ordersTemplate hps'
  obtain ⟨-, -, -, hvalues, hsame⟩ := resolve_spliced ordersTemplate leakCall s hs
  have htext : s.sql.toList =
      "SELECT * FROM o WHERE id=@id AND s=@s ORDER BY @secret -- @note".toList := by
    rw [hsql, String.toList_ofList]
    decide
  have hnames : (Sql.rewrite .dollar s.sql.toList).names = ["id", "s", "secret"] := by
    rw [htext]
    decide +kernel
  have hname : ∀ {i : Nat} {n : String}, ["id", "s", "secret"][i]? = some n →
      (Sql.rewrite .dollar s.sql.toList).names[i]? = some n := fun h => by rw [hnames, h]
  have hagree : leakCall.AgreeFor (ordersTemplate.RefersTo leakCall) otherCall :=
    agreeFor_leakCall fun h => absurd (refersTo_leakCall_iff.1 h) (by decide)
  have hroute : ∀ d ∈ keptDirectives ordersTemplate.text, d.kind = .optional →
      d.IgnoresRoute leakCall otherCall := fun d hd _ hmem =>
    absurd hmem (connectionPrefixName_notMem_names d hd)
  -- The text refers to `id` and `s` itself, while `secret` only stands in a spliced value.
  obtain ⟨id, hid, hidbound, -⟩ := hvalues 0 "id" (hname rfl)
  obtain ⟨status, hstatus, hstatusbound, -⟩ := hvalues 1 "s" (hname rfl)
  obtain ⟨secret, hsecret, -, hsecretnull⟩ := hvalues 2 "secret" (hname rfl)
  rw [hidbound ⟨by decide, refersTo_leakCall_iff.2 (by decide)⟩] at hid
  rw [hstatusbound ⟨by decide, refersTo_leakCall_iff.2 (by decide)⟩] at hstatus
  rw [hsecretnull fun h => absurd (refersTo_leakCall_iff.1 h.2) (by decide)] at hsecret
  exact ⟨s, s', hs, hs', hsame otherCall s' hs' hagree hroute, htext, hnames, hid, hstatus, hsecret⟩

end QueryBook
