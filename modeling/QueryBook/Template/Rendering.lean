import QueryBook.Template.Basic

namespace QueryBook

/-!
# Rendering a template

The text of a template for one call is a row of pieces: its own text, and values spliced into it.

* `Piece` — a piece of either sort.
* `Template.pieces` — the pieces for one call.
* `Piece.textOf`, `Piece.namesOf` — the text of a row of pieces, and the names that the template's
  own pieces refer to. What a value holds is never read for names.
-/

/-- A piece of a rendered text. -/
inductive Piece where
  /-- Text of the template. -/
  | own (text : List Char)
  /-- The values of a literal directive. -/
  | spliced (text : List Char)
deriving DecidableEq, Repr

namespace Piece

/-- The characters of a piece. -/
def text : Piece → List Char
  | own t | spliced t => t

/-- The names that a piece refers to; values refer to none. -/
def names : Piece → List String
  | own t => referencedNames t
  | spliced _ => []

/-- The text of a row of pieces. -/
def textOf (ps : List Piece) : List Char := ps.flatMap text

/-- The names that a row of pieces refers to, each once, in the order in which they come first. -/
def namesOf (ps : List Piece) : List String := (ps.flatMap names).eraseDups

@[simp] theorem textOf_nil : textOf [] = [] := rfl

@[simp] theorem textOf_cons (p : Piece) (ps : List Piece) :
    textOf (p :: ps) = p.text ++ textOf ps := rfl

@[simp] theorem textOf_append (ps qs : List Piece) :
    textOf (ps ++ qs) = textOf ps ++ textOf qs := by
  simp [textOf]

end Piece

/-- The pieces of the range from `cursor` to `stop`, with those of some directives in their
    places. -/
def interleave (text : List Char) (cursor stop : Nat) : List (Directive × List Piece) → List Piece
  | [] => [.own (Text.Span.slice ⟨cursor, stop⟩ text)]
  | (d, ps) :: more =>
    .own (Text.Span.slice ⟨cursor, d.start⟩ text) ::
      (ps ++ interleave text d.span.stop stop more)

/-- The pieces of a directive, given those of its body if it is optional and kept. -/
def Directive.pieces (d : Directive) (body : Except Error (List Piece)) (dialect : Dialect)
    (p : Parameters) : Except Error (List Piece) := do
  let rendered ← d.kind.render d.body dialect p
  match d.kind with
  -- A kept body holds a reference, so that an empty text means a dropped one.
  | .optional => if rendered.isEmpty then .ok [] else body
  | .literal => .ok [.spliced rendered]
  | .parameter => .ok [.own rendered]

/-- The pieces of a child; a child's body is plain text. -/
def Directive.childPieces (d : Directive) (dialect : Dialect) (p : Parameters) :
    Except Error (List Piece) := d.pieces (.ok [.own d.body]) dialect p

/-- The pieces of a slot. -/
def Slot.pieces (text : List Char) (s : Slot) (dialect : Dialect) (p : Parameters) :
    Except Error (List Piece) :=
  let body := do
    let children ← s.children.mapM fun c => do .ok (c, ← c.childPieces dialect p)
    .ok (interleave text s.directive.bodySpan.start s.directive.bodySpan.stop children)
  s.directive.pieces body dialect p

/-- The pieces of a template's text for one call. -/
def Template.pieces (t : Template) (p : Parameters) : Except Error (List Piece) := do
  let slots ← t.slots.mapM fun s => do .ok (s.directive, ← s.pieces t.text t.dialect p)
  .ok (interleave t.text 0 t.text.length slots)

end QueryBook
