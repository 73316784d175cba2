import QueryBook.Proofs.Xml.Passage

namespace QueryBook.Xml

/-!
# Elements that do not count

An element counts where a collector waits for its name: as an entry below the root, as a definition
in an entry, as a command in a definition. Any other element adds its text to what is gathered, if
some text is, and whatever is inside it does the same.

* `Collector.Ignores` — an element of a name does not count where it stands.
* `Node.Written.passes_of_ignores`, `NodesWritten.passes_of_ignores` — only text is taken from it.
-/

namespace Collector

variable {s : Collector} {name : List Char} (chars : List Char)

/-- Text opens and closes no element. -/
@[simp] theorem takeText_depth : (s.takeText chars).depth = s.depth := by
  cases htarget : s.target with
  | none => rw [takeText_of_target_eq_none htarget]
  | some target => cases target <;> simp [takeText, htarget, append]

/-- Text neither begins an entry nor changes it. -/
@[simp] theorem takeText_entry : (s.takeText chars).entry = s.entry := by
  cases htarget : s.target with
  | none => rw [takeText_of_target_eq_none htarget]
  | some target => cases target <;> simp [takeText, htarget, append]

/-- Text is gathered in the same way at any depth. -/
theorem takeText_deeper (n : Nat) :
    ({ s with depth := n } : Collector).takeText chars = { s.takeText chars with depth := n } := by
  cases htarget : s.target with
  | none => simp [takeText, htarget]
  | some target => cases target <;> simp [takeText, htarget, append]

/-- The tags of an element of that name change nothing but the depth, and so do those inside. -/
structure Ignores (s : Collector) (name : List Char) : Prop where
  /-- The element is neither the root nor a child of it. -/
  depth : 2 ≤ s.depth
  definition : s.depth = 2 →
    (s.entry = none ∨ localPart name ≠ definitionName) ∧ s.target = none
  command : s.depth = 3 →
    s.target = none ∨ s.target = some .definition ∧ localPart name ≠ commandName

namespace Ignores

/-- What is ignored before a text is so behind it. -/
theorem takeText (h : s.Ignores name) : (s.takeText chars).Ignores name where
  depth := by
    rw [takeText_depth]
    exact h.depth
  definition := by
    rw [takeText_depth, takeText_entry, takeText_target]
    exact h.definition
  command := by
    rw [takeText_depth, takeText_target]
    exact h.command

/-- Inside an element that is ignored every element is. -/
theorem deeper (h : s.Ignores name) (inside : List Char) :
    ({ s with depth := s.depth + 1 } : Collector).Ignores inside where
  depth := Nat.le_succ_of_le h.depth
  definition := by
    intro hdepth
    have := h.depth
    simp only at hdepth
    omega
  command := fun hdepth => .inl (h.definition (Nat.succ.inj hdepth)).2

/-- The opening tag of an element that is ignored counts for the depth alone. -/
theorem takeOpening_eq (h : s.Ignores name) {tag : Tag} (htag : tag.localName = localPart name) :
    s.takeOpening tag = .ok { s with depth := s.depth + 1 } := by
  have hentry : ¬ s.depth + 1 = 2 := by
    have := h.depth
    omega
  have hdefinition : ¬ (s.depth + 1 = 3 ∧ s.entry.isSome ∧ tag.localName = definitionName) := by
    rintro ⟨hdepth, hsome, hname⟩
    rcases (h.definition (Nat.succ.inj hdepth)).1 with hnone | hne
    · simp [hnone] at hsome
    · exact hne (htag.symm.trans hname)
  have hcommand :
      ¬ (s.depth + 1 = 4 ∧ s.target = some .definition ∧ tag.localName = commandName) := by
    rintro ⟨hdepth, hsome, hname⟩
    rcases h.command (Nat.succ.inj hdepth) with hnone | ⟨-, hne⟩
    · simp [hnone] at hsome
    · exact hne (htag.symm.trans hname)
  simp only [takeOpening, if_neg hentry, if_neg hdefinition, if_neg hcommand]

/-- Its closing tag takes the depth back. -/
theorem takeClosing_eq (h : s.Ignores name) :
    ({ s with depth := s.depth + 1 } : Collector).takeClosing name = s := by
  have hentry : ¬ s.depth + 1 = 2 := by
    have := h.depth
    omega
  have hdefinition :
      ¬ (s.depth + 1 = 3 ∧ s.target.isSome ∧ (Tag.mk name).localName = definitionName) := by
    rintro ⟨hdepth, hsome, -⟩
    simp [(h.definition (Nat.succ.inj hdepth)).2] at hsome
  have hcommand : ¬ (s.depth + 1 = 4 ∧ s.target = some .command) := by
    rintro ⟨hdepth, hsome⟩
    rcases h.command (Nat.succ.inj hdepth) with hnone | ⟨hother, -⟩
    · simp [hnone] at hsome
    · simp [hother] at hsome
  simp only [takeClosing, if_neg hentry, if_neg hdefinition, if_neg hcommand, Nat.add_sub_cancel]

end Ignores

end Collector

mutual

/-- Of a node that does not count only the text is taken. -/
theorem Node.Written.passes_of_ignores {node : Node} {raw : List Char} (h : node.Written raw)
    (opened : List (List Char)) {s : Collector}
    (hs : ∀ e, node.element? = some e → s.Ignores e.name) :
    Passes opened s raw (s.takeText node.chars) := by
  cases node with
  | element name attributes content =>
    have hignores : s.Ignores name := hs _ rfl
    have hclose := (hignores.takeText (charsOf content)).takeClosing_eq
    rw [Collector.takeText_depth, ← Collector.takeText_deeper] at hclose
    rw [Node.chars, ← hclose]
    exact Element.passes (e := ⟨name, attributes, content⟩) h opened
      (fun tag htag => hignores.takeOpening_eq htag.localName_eq)
      fun inner hinner => hinner.passes_of_ignores (name :: opened) hignores.deeper
  | text chars => exact h.passes_of_not_element opened rfl s
  | cdata chars => exact h.passes_of_not_element opened rfl s
  | comment chars => exact h.passes_of_not_element opened rfl s
  | instruction chars => exact h.passes_of_not_element opened rfl s

/-- Of a row of nodes that do not count only the text is taken. -/
theorem NodesWritten.passes_of_ignores {nodes : List Node} {raw : List Char}
    (h : NodesWritten nodes raw) (opened : List (List Char)) {s : Collector}
    (hs : ∀ name, s.Ignores name) : Passes opened s raw (s.takeText (charsOf nodes)) := by
  cases nodes with
  | nil =>
    cases h
    rw [charsOf, Collector.takeText_nil]
    exact .nil opened s
  | cons node nodes =>
    cases h with
    | cons hnode hnodes =>
      rw [charsOf, ← Collector.takeText_takeText]
      exact (hnode.passes_of_ignores opened fun e _ => hs e.name).append
        (hnodes.passes_of_ignores opened fun name => (hs name).takeText node.chars)

end

/-- An element is passed over with its text if no element inside it counts. -/
theorem Element.passes_of_ignores {e : Element} {raw : List Char} (h : e.node.Written raw)
    (opened : List (List Char)) {s s₁ : Collector}
    (hopen : ∀ tag : Tag, tag.Shows e → s.takeOpening tag = .ok s₁)
    (hs₁ : ∀ name, s₁.Ignores name) :
    Passes opened s raw ((s₁.takeText (charsOf e.content)).takeClosing e.name) :=
  Element.passes h opened hopen fun _ hinner => hinner.passes_of_ignores (e.name :: opened) hs₁

end QueryBook.Xml
