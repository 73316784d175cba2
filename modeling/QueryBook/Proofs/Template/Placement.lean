import QueryBook.Proofs.Text.Replaced
import QueryBook.Template.Basic

namespace QueryBook

/-!
# Where references and directives stand

* `ascending_references` — the references of a text are inside it and in order.
* `Directive.StandsIn` — a directive is written where its place says, with both markers; so are all
  that a text is searched for (`standsIn_of_mem_all`).
* `Slot.Nested` — the children of a slot are inside its body and in order.
* `ascending_layout`, `nested_of_mem_layout` — so is every slot of a text, and the slots themselves
  are inside the text and in order. Which directives overlap does not matter for this.
-/

open Text (Ascending Span)

/-! ### References -/

/-- An `@` is no character of a name. -/
theorem isNameChar_at : isNameChar '@' = false := by decide

/-- References are in order from every place that is not behind the name in which the text may
    begin: the characters of a name begin no reference. -/
theorem ascending_referencesFrom {before : Option Char} {start place : Nat} {cs : List Char}
    (h : start ≤ place + (cs.takeWhile isNameChar).length) :
    Ascending start (place + cs.length) ((referencesFrom before place cs).map Reference.span) := by
  induction cs generalizing before start place with
  | nil => simpa [referencesFrom, Ascending] using h
  | cons c cs ih =>
    rw [List.length_cons, show place + (cs.length + 1) = place + 1 + cs.length by omega,
      referencesFrom]
    -- A reference takes its name along, and any other character only itself.
    split
    · next hc =>
      have hat : c = '@' := by
        simp only [Bool.and_eq_true, beq_iff_eq] at hc
        exact hc.1.1
      rw [hat, List.takeWhile_cons_of_neg (by simp [isNameChar_at])] at h
      refine ⟨h, ?_, ih ?_⟩
      · show place ≤ place + 1 + _
        omega
      · show place + 1 + (String.ofList _).length ≤ _
        exact Nat.add_le_add_left (Nat.le_of_eq String.length_ofList) _
    · refine ih (Nat.le_trans h ?_)
      rw [List.takeWhile_cons]
      split
      · rw [List.length_cons]
        omega
      · rw [List.length_nil]
        omega

/-- The references of a text are in order and do not overlap. -/
theorem ascending_references (text : List Char) :
    Ascending 0 text.length ((references text).map Reference.span) := by
  have hfrom : Ascending 0 (0 + text.length) ((referencesFrom none 0 text).map Reference.span) :=
    ascending_referencesFrom (Nat.zero_le _)
  rwa [Nat.zero_add] at hfrom

/-! ### Directives -/

namespace Directive

/-- The directive is written in the text at its place. -/
def StandsIn (d : Directive) (text : List Char) : Prop :=
  ∃ before after, text = before ++ d.marker ++ after ∧ d.start = before.length

variable {d : Directive} {k : Kind} {text : List Char}

/-- A marker is as long as its body and what opens and closes it. -/
theorem length_marker_eq (d : Directive) :
    d.marker.length = d.kind.opening.length + d.body.length + d.kind.closing.length := by
  simp [marker, Nat.add_assoc]

/-- The range of a directive does not end before it begins. -/
theorem start_le_span_stop (d : Directive) : d.span.start ≤ d.span.stop := by
  simp only [span, bodySpan]
  omega

/-- A directive that is written in a text ends inside it. -/
theorem StandsIn.stop_le (h : d.StandsIn text) : d.span.stop ≤ text.length := by
  obtain ⟨before, after, rfl, hstart⟩ := h
  have := d.length_marker_eq
  simp only [span, bodySpan, List.length_append]
  omega

/-- Between the markers stands the body. -/
theorem StandsIn.slice_bodySpan (h : d.StandsIn text) : d.bodySpan.slice text = d.body := by
  obtain ⟨before, after, rfl, hstart⟩ := h
  have hdrop : (before ++ d.marker ++ after).drop (d.start + d.kind.opening.length) =
      d.body ++ (d.kind.closing ++ after) := by
    rw [hstart, marker, show before ++ (d.kind.opening ++ d.body ++ d.kind.closing) ++ after =
      (before ++ d.kind.opening) ++ (d.body ++ (d.kind.closing ++ after)) by simp]
    exact List.drop_left' (by simp)
  rw [Span.slice, bodySpan, hdrop]
  simp

/-- What is found in a text behind a beginning is written there. -/
theorem standsIn_of_mem_scanFrom {place : Nat} (h : d ∈ scanFrom k place text) :
    ∀ before : List Char, before.length = place → d.StandsIn (before ++ text) := by
  fun_induction scanFrom k place text with
  | case1 => exact absurd h List.not_mem_nil
  | case2 place text gap body after hfirst _ found ih =>
    intro before hplace
    have htext : before ++ text = before ++ gap ++ found.marker ++ after := by
      rw [first?_append hfirst, marker]
      simp [found]
    have hfound : found.start = (before ++ gap).length := by simp [found, hplace]
    rcases List.mem_cons.1 h with rfl | h
    · exact ⟨before ++ gap, after, htext, hfound⟩
    · rw [htext]
      refine ih h _ ?_
      have := found.length_marker
      have := found.start_le_span_stop
      rw [List.length_append, ← hfound]
      show found.span.start + _ = _
      omega

/-- What is found is of the kind that was looked for. -/
theorem kind_of_mem_scanFrom {place : Nat} (h : d ∈ scanFrom k place text) : d.kind = k := by
  fun_induction scanFrom k place text with
  | case1 => exact absurd h List.not_mem_nil
  | case2 place text gap body after hfirst _ found ih =>
    rcases List.mem_cons.1 h with rfl | h
    · rfl
    · exact ih h

/-- What the search for a kind finds stands in the text. -/
theorem standsIn_of_mem_scan (h : d ∈ scan k text) : d.StandsIn text :=
  standsIn_of_mem_scanFrom h [] rfl

end Directive

/-- What a text is searched for is written in it. -/
theorem Extraction.standsIn_of_mem_all {d : Directive} {text : List Char}
    (h : d ∈ (extract text).all) : d.StandsIn text := by
  simp only [Extraction.all, extract, List.mem_append] at h
  rcases h with (h | h) | h <;> exact Directive.standsIn_of_mem_scan h

/-- A directive that is found is listed with its kind. -/
theorem Extraction.mem_of_mem_all {text : List Char} {d : Directive}
    (h : d ∈ (extract text).all) :
    match d.kind with
    | .optional => d ∈ (extract text).optional
    | .literal => d ∈ (extract text).literal
    | .parameter => d ∈ (extract text).parameter := by
  simp only [Extraction.all, extract, List.mem_append] at h ⊢
  rcases h with (h | h) | h <;> rw [Directive.kind_of_mem_scanFrom h] <;> exact h

/-! ### Slots -/

/-- The children of the slot are inside its body and in order. -/
def Slot.Nested (s : Slot) : Prop :=
  Ascending s.directive.bodySpan.start s.directive.bodySpan.stop (s.children.map Directive.span)

/-- A slot without children. -/
theorem Slot.nested_nil (d : Directive) : Slot.Nested ⟨d, []⟩ := by
  simp [Slot.Nested, Ascending, Directive.bodySpan]

/-- A directive that the slot admits may be added. -/
theorem Slot.Nested.add {s : Slot} {d : Directive} (hs : s.Nested) (hd : s.admits d = true) :
    (s.add d).Nested := by
  simp only [Slot.admits, Bool.and_eq_true, decide_eq_true_eq] at hd
  obtain ⟨⟨-, hbody⟩, hlast⟩ := hd
  rw [Slot.Nested, Slot.add, List.map_append]
  refine Ascending.concat hs ?_ d.start_le_span_stop hbody.2
  rw [Slot.childrenStop] at hlast
  rw [List.map_map, List.getLast?_map]
  cases hlast' : s.children.getLast? with
  | none => exact hbody.1
  | some c => simpa [hlast', Directive.span] using hlast

variable {text : List Char}

/-- Only given directives are arranged. -/
theorem mem_of_mem_arrange {current s : Slot} {ds : List Directive} {d : Directive}
    (hs : s ∈ arrange current ds) (hd : d ∈ s.all) : d ∈ current.all ∨ d ∈ ds := by
  induction ds generalizing current with
  | nil =>
    rw [arrange, List.mem_singleton] at hs
    exact .inl (hs ▸ hd)
  | cons e es ih =>
    rw [arrange] at hs
    split at hs
    · have := ih hs
      simp only [Slot.all, Slot.add, List.mem_cons, List.mem_append] at this ⊢
      grind
    · split at hs
      · exact (ih hs).imp_right (List.mem_cons_of_mem e)
      · rcases List.mem_cons.1 hs with rfl | hs
        · exact .inl hd
        · have := ih hs
          simp only [Slot.all, List.mem_cons] at this ⊢
          grind

/-- Every slot is nested, if the one that is being filled is. -/
theorem nested_of_mem_arrange {current s : Slot} {ds : List Directive} (hcurrent : current.Nested)
    (hs : s ∈ arrange current ds) : s.Nested := by
  induction ds generalizing current with
  | nil =>
    rw [arrange, List.mem_singleton] at hs
    exact hs ▸ hcurrent
  | cons d ds ih =>
    rw [arrange] at hs
    split at hs
    · next hd => exact ih (hcurrent.add hd) hs
    · split at hs
      · exact ih hcurrent hs
      · rcases List.mem_cons.1 hs with rfl | hs
        · exact hcurrent
        · exact ih (Slot.nested_nil d) hs

/-- The slots are in order from every place that is not behind the slot that is being filled: a
    further slot is opened only behind it. -/
theorem ascending_arrange {current : Slot} {ds : List Directive} {start stop : Nat}
    (hstart : start ≤ current.directive.start) (hcurrent : current.directive.span.stop ≤ stop)
    (hds : ∀ d ∈ ds, d.span.stop ≤ stop) :
    Ascending start stop ((arrange current ds).map (·.directive.span)) := by
  induction ds generalizing current start with
  | nil => exact ⟨hstart, current.directive.start_le_span_stop, hcurrent⟩
  | cons d ds ih =>
    have hd := hds d List.mem_cons_self
    have hds' := fun e he => hds e (List.mem_cons_of_mem d he)
    rw [arrange]
    split
    · exact ih hstart hcurrent hds'
    · split
      · exact ih hstart hcurrent hds'
      · next hbehind =>
        exact ⟨hstart, current.directive.start_le_span_stop,
          ih (Nat.le_of_not_lt hbehind) hd hds'⟩

/-- To put directives in order loses none and adds none. -/
theorem mem_inOrder_iff {e : Extraction} {d : Directive} : d ∈ e.inOrder ↔ d ∈ e.all :=
  (List.mergeSort_perm _ _).mem_iff

/-- A directive that counts is one of those that the text is searched for. -/
theorem mem_all_of_mem_layout {s : Slot} {d : Directive} (hs : s ∈ layout text) (hd : d ∈ s.all) :
    d ∈ (extract text).all := by
  refine mem_inOrder_iff.1 ?_
  rw [layout] at hs
  cases hsorted : (extract text).inOrder with
  | nil => simp [hsorted, arrangeAll] at hs
  | cons e es =>
    rw [hsorted, arrangeAll] at hs
    simpa [Slot.all] using mem_of_mem_arrange hs hd

/-- A directive that counts is written in the text. -/
theorem standsIn_of_mem_layout {s : Slot} {d : Directive} (hs : s ∈ layout text) (hd : d ∈ s.all) :
    d.StandsIn text :=
  Extraction.standsIn_of_mem_all (mem_all_of_mem_layout hs hd)

/-- The slots of a layout have their children inside their bodies and in order. -/
theorem nested_of_mem_layout {s : Slot} (hs : s ∈ layout text) : s.Nested := by
  rw [layout] at hs
  cases hsorted : (extract text).inOrder with
  | nil => simp [hsorted, arrangeAll] at hs
  | cons d ds =>
    rw [hsorted, arrangeAll] at hs
    exact nested_of_mem_arrange (Slot.nested_nil d) hs

/-- The slots of a text are inside it and in order. -/
theorem ascending_layout (text : List Char) :
    Ascending 0 text.length ((layout text).map (·.directive.span)) := by
  have hstop : ∀ d ∈ (extract text).inOrder, d.span.stop ≤ text.length := fun d hd =>
    (Extraction.standsIn_of_mem_all (mem_inOrder_iff.1 hd)).stop_le
  rw [layout]
  cases hsorted : (extract text).inOrder with
  | nil => exact Nat.zero_le _
  | cons d ds =>
    rw [hsorted] at hstop
    exact ascending_arrange (Nat.zero_le _) (hstop d List.mem_cons_self) fun e he =>
      hstop e (List.mem_cons_of_mem d he)

end QueryBook
