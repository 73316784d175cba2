import QueryBook.Bound

namespace QueryBook

/-!
# Calls that a template cannot tell apart

The text of a statement depends on a call in two ways only: by the values of the names that a
literal directive refers to, and by whether the names that an optional directive refers to are
present. Values that are bound never reach it.

* `Directive.Alike`, `Template.Alike` — two calls look the same to a directive; to all directives of
  a template that count.
* `Template.pieces_eq_of_alike` — two such calls give the same pieces of text.
* `Template.resolve_of_alike` — so they fail alike, or give one text, and one text for the driver
  with equally many values.
-/

/-- The same steps over a list give the same result. -/
theorem mapM_eq_of_forall_mem {m : Type → Type} [Monad m] [LawfulMonad m] {α β : Type}
    {f g : α → m β} {l : List α} (h : ∀ a ∈ l, f a = g a) : l.mapM f = l.mapM g := by
  induction l with
  | nil => simp
  | cons a l ih =>
    have hl : l.mapM f = l.mapM g := ih fun b hb => h b (List.mem_cons_of_mem a hb)
    rw [List.mapM_cons, List.mapM_cons, h a List.mem_cons_self, hl]

variable {p q : Parameters}

/-! ### What is read of a call -/

/-- The names of a text are those of its references. -/
theorem mem_referencedNames_iff {text : List Char} {name : String} :
    name ∈ referencedNames text ↔ ∃ r ∈ references text, r.name = name := by
  simp [referencedNames]

/-- The SQL text for a name depends on its value only. -/
theorem Parameters.literal?_eq_of_get?_eq {name : String} (h : p.get? name = q.get? name) :
    p.literal? name = q.literal? name := by
  rw [Parameters.literal?, Parameters.literal?, h]

/-- Whether all names are present depends on which of them are. -/
theorem Parameters.allPresent_eq {names : List String}
    (h : ∀ n ∈ names, p.isPresent n = q.isPresent n) : p.allPresent names = q.allPresent names := by
  rw [Bool.eq_iff_iff, Parameters.allPresent, Parameters.allPresent, List.all_eq_true,
    List.all_eq_true]
  exact forall₂_congr fun n hn => by rw [h n hn]

/-- Splicing reads no more of a call than the values of the names that the text refers to. -/
theorem spliceLiterals?_eq {text : List Char}
    (h : ∀ n ∈ referencedNames text, p.get? n = q.get? n) :
    spliceLiterals? text p = spliceLiterals? text q := by
  unfold spliceLiterals?
  congr 1
  refine mapM_eq_of_forall_mem fun r hr => ?_
  have hn : r.name ∈ referencedNames text := mem_referencedNames_iff.2 ⟨r, hr, rfl⟩
  rw [Parameters.literal?_eq_of_get?_eq (h r.name hn)]

/-! ### Calls that look the same -/

/-- Two calls look the same to a directive: a literal one reads values, an optional one asks which
    are present, and one that is always kept reads nothing. -/
def Directive.Alike (d : Directive) (p q : Parameters) : Prop :=
  match d.kind with
  | .literal => ∀ n ∈ d.names, p.get? n = q.get? n
  | .optional => ∀ n ∈ d.names, p.isPresent n = q.isPresent n
  | .parameter => True

/-- Two calls look the same to all directives of a template that count. -/
def Template.Alike (t : Template) (p q : Parameters) : Prop :=
  ∀ d ∈ keptDirectives t.text, d.Alike p q

/-- A directive's body becomes the same text for calls that look the same to it. -/
theorem Directive.render_eq_of_alike {d : Directive} (h : d.Alike p q) (dialect : Dialect) :
    d.kind.render d.body dialect p = d.kind.render d.body dialect q := by
  obtain ⟨kind, start, body⟩ := d
  unfold Directive.Kind.render
  cases kind with
  | optional =>
    have hpresent : p.allPresent (referencedNames body) = q.allPresent (referencedNames body) :=
      Parameters.allPresent_eq h
    simp only [hpresent]
  | literal =>
    have hsplice : spliceLiterals? body p = spliceLiterals? body q := spliceLiterals?_eq h
    simp only [hsplice]
  | parameter => rfl

/-- A directive gives the same pieces for calls that look the same to it. -/
theorem Directive.pieces_eq_of_alike {d : Directive} (h : d.Alike p q)
    (body : Except Error (List Piece)) (dialect : Dialect) :
    d.pieces body dialect p = d.pieces body dialect q := by
  rw [Directive.pieces, Directive.pieces, Directive.render_eq_of_alike h]

/-- A slot gives the same pieces for calls that look the same to its directives. -/
theorem Slot.pieces_eq_of_alike {s : Slot} (h : ∀ d ∈ s.all, d.Alike p q) (text : List Char)
    (dialect : Dialect) : s.pieces text dialect p = s.pieces text dialect q := by
  have hchildren : (s.children.mapM fun c => do .ok (c, ← c.childPieces dialect p)) =
      (s.children.mapM fun c => do .ok (c, ← c.childPieces dialect q) :
        Except Error (List (Directive × List Piece))) := by
    refine mapM_eq_of_forall_mem fun c hc => ?_
    have hc' : c.Alike p q := h c (List.mem_cons_of_mem s.directive hc)
    rw [Directive.childPieces, Directive.childPieces, Directive.pieces_eq_of_alike hc']
  unfold Slot.pieces
  simp only [hchildren]
  exact Directive.pieces_eq_of_alike (h s.directive List.mem_cons_self) _ dialect

/-- Calls that look the same to a template give the same pieces, or the same error. -/
theorem Template.pieces_eq_of_alike {t : Template} (h : t.Alike p q) : t.pieces p = t.pieces q := by
  have hslots : (t.slots.mapM fun s => do .ok (s.directive, ← s.pieces t.text t.dialect p)) =
      (t.slots.mapM fun s => do .ok (s.directive, ← s.pieces t.text t.dialect q) :
        Except Error (List (Directive × List Piece))) := by
    refine mapM_eq_of_forall_mem fun s hs => ?_
    have hs' : ∀ d ∈ s.all, d.Alike p q := fun d hd => h d (List.mem_flatMap.2 ⟨s, hs, hd⟩)
    rw [Slot.pieces_eq_of_alike hs']
  rw [Template.pieces, Template.pieces, hslots]

/-! ### The statement -/

/-- **Bound values never reach the text.** Calls that look the same to a template fail with one
    error, or they give one text, and then the driver gets one text and equally many values. -/
theorem Template.resolve_of_alike (t : Template) (p q : Parameters) (h : t.Alike p q) :
    (∃ e, t.resolve p = .error e ∧ t.resolve q = .error e) ∨
      ∃ s s', t.resolve p = .ok s ∧ t.resolve q = .ok s' ∧ s.sql = s'.sql ∧
        s.bind.sql = s'.bind.sql ∧ s.bind.values.length = s'.bind.values.length := by
  have hpieces : t.pieces p = t.pieces q := Template.pieces_eq_of_alike h
  unfold Template.resolve
  cases t.malformed with
  | cons marker more => exact .inl ⟨_, rfl, rfl⟩
  | nil =>
    simp only [hpieces]
    cases t.pieces q with
    | error e => exact .inl ⟨e, rfl, rfl⟩
    | ok pieces =>
      refine .inr ⟨_, _, rfl, rfl, rfl, rfl, ?_⟩
      -- The names are read from the text, and each of them gives one value.
      simp only [Statement.bind, bindText, Parameters.length_valuesOf]

/-- A template with a directive of each kind, one of them inside another. -/
def ordersTemplate : Template where
  name := "Orders"
  dialect := .postgres
  connection := "Shop"
  binding := none
  sql := "SELECT * FROM o WHERE id=@id <%=AND s=@s ORDER BY <R%=@c%R>%>@@ -- @note@@"
  source := none

/-- The values of a call of it. -/
def ordersCall (id : Int64) (status : String) : Parameters :=
  .ofList [("id", .int id), ("s", .text status), ("c", .sqlLiteral "day")]

/-- The directives of the template that count. -/
theorem layout_ordersTemplate : layout ordersTemplate.text =
    [⟨⟨.optional, 29, "AND s=@s ORDER BY <R%=@c%R>".toList⟩, [⟨.literal, 50, "@c".toList⟩]⟩,
      ⟨⟨.parameter, 61, " -- @note".toList⟩, []⟩] := by
  rw [layout_of_pairwise (by decide +kernel)]
  decide +kernel

/-- Two calls that differ in what is bound have the same text; an attempt to write SQL in a value is
    bound like any other one. -/
theorem Template.resolve_of_alike_orders :
    ordersTemplate.Alike (ordersCall 1 "OPEN") (ordersCall 2 "'; DROP TABLE o") ∧
      ∃ s s', ordersTemplate.resolve (ordersCall 1 "OPEN") = .ok s ∧
        ordersTemplate.resolve (ordersCall 2 "'; DROP TABLE o") = .ok s' ∧ s.sql = s'.sql ∧
        s.bind.sql = s'.bind.sql ∧ s.bind.values.length = s'.bind.values.length := by
  have halike : ordersTemplate.Alike (ordersCall 1 "OPEN") (ordersCall 2 "'; DROP TABLE o") := by
    intro d hd
    rw [keptDirectives, layout_ordersTemplate] at hd
    simp only [List.flatMap_cons, List.flatMap_nil, Slot.all, List.append_nil, List.cons_append,
      List.nil_append, List.mem_cons, List.not_mem_nil, or_false] at hd
    rcases hd with rfl | rfl | rfl
    · show ∀ n ∈ referencedNames _, _
      decide +kernel
    · have hnames : Directive.names ⟨.literal, 50, "@c".toList⟩ = ["c"] := by decide +kernel
      intro n hn
      rw [hnames, List.mem_singleton] at hn
      subst hn
      rfl
    · trivial
  have hmalformed : ordersTemplate.malformed = [] := by
    rw [malformed_eq_nil_iff, keptDirectives, layout_ordersTemplate]
    decide +kernel
  have hok : (ordersTemplate.resolve (ordersCall 1 "OPEN")).isOk = true := by
    simp only [resolve, hmalformed, pieces, slots, layout_ordersTemplate]
    decide +kernel
  refine ⟨halike, (resolve_of_alike ordersTemplate _ _ halike).resolve_left ?_⟩
  rintro ⟨e, he, -⟩
  rw [he] at hok
  exact Bool.noConfusion hok

end QueryBook
