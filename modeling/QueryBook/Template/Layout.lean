import QueryBook.Directive.Extraction

namespace QueryBook

/-!
# The layout of a template's text

Which directives of a text count. Two directives may overlap, because each kind is looked for on its
own. Read from left to right, a directive inside the body of an optional one becomes its child; one
that begins before the end of the directive before it counts for nothing and stays plain text.

* `Slot` — a directive at the top and its children.
* `Slot.admits` — whether a directive becomes a further child.
* `layout` — the slots of a text, from left to right.
-/

/-- A directive that counts, with those inside its body that count. -/
structure Slot where
  directive : Directive
  children : List Directive
deriving DecidableEq, Repr

namespace Slot

/-- Where the next child may begin. -/
def childrenStop (s : Slot) : Nat := (s.children.getLast?.map fun d => d.span.stop).getD 0

/-- Whether a directive becomes a further child: only an optional directive has children. -/
def admits (s : Slot) (d : Directive) : Bool :=
  s.directive.kind == .optional && decide (s.directive.Contains d) &&
    decide (s.childrenStop ≤ d.start)

/-- The slot with a further child. -/
def add (s : Slot) (d : Directive) : Slot := ⟨s.directive, s.children ++ [d]⟩

/-- The directive and its children. -/
def all (s : Slot) : List Directive := s.directive :: s.children

end Slot

/-- Puts directives, in the order of their places, behind the slot that is being filled. -/
def arrange (current : Slot) : List Directive → List Slot
  | [] => [current]
  | d :: ds =>
    if current.admits d then arrange (current.add d) ds
    -- It begins inside the slot but is no child, so it stays plain text.
    else if d.start < current.directive.span.stop then arrange current ds
    else current :: arrange ⟨d, []⟩ ds

/-- The slots of directives in the order of their places. -/
def arrangeAll : List Directive → List Slot
  | [] => []
  | d :: ds => arrange ⟨d, []⟩ ds

/-- The slots of a text, from left to right. -/
def layout (text : List Char) : List Slot := arrangeAll (extract text).inOrder

/-- The directives of a text that count, each slot's own before its children. -/
def keptDirectives (text : List Char) : List Directive := (layout text).flatMap Slot.all

/-- A text without directives has no slots. -/
theorem layout_eq_nil_of_isEmpty {text : List Char} (h : (extract text).isEmpty = true) :
    layout text = [] := by
  have hall : (extract text).all = [] := List.isEmpty_iff.1 h
  simp [layout, Extraction.inOrder, hall, arrangeAll]

/-- Directives that stand in order kind by kind are arranged as they are. -/
theorem layout_of_pairwise {text : List Char}
    (h : (extract text).all.Pairwise fun d d' => d.start ≤ d'.start) :
    layout text = arrangeAll (extract text).all := by
  rw [layout, Extraction.inOrder, List.mergeSort_of_pairwise]
  exact h.imp fun hle => decide_eq_true hle

end QueryBook
