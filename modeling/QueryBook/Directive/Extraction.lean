import QueryBook.Directive.Basic
import QueryBook.Text.Search

namespace QueryBook

/-!
# Finding directives

Each kind is looked for on its own: an opening marker that a closing marker follows, the body
between them as short as possible, then the same behind the closing marker.

* `Directive.first?` — the first directive of a kind in the rest of a text.
* `Directive.scan` — all of a kind, from left to right.
* `Extraction`, `extract` — the three lists of a text.
-/

namespace Directive

/-- What stands before the first directive of a kind, its body, and what follows it. -/
def first? (k : Kind) (text : List Char) : Option (List Char × List Char × List Char) :=
  match Text.breakOn? k.opening text with
  | none => none
  | some (before, rest) =>
    -- If no closing marker follows here, none follows a later opening marker either.
    match Text.breakOn? k.closing rest with
    | none => none
    | some (body, after) => some (before, body, after)

/-- The three parts and the markers make up the text. -/
theorem first?_append {k : Kind} {text before body after : List Char}
    (h : first? k text = some (before, body, after)) :
    text = before ++ (k.opening ++ body ++ k.closing) ++ after := by
  simp only [first?] at h
  split at h
  · simp at h
  · next b rest hb =>
    split at h
    · simp at h
    · next b' a hc =>
      simp only [Option.some.injEq, Prod.mk.injEq] at h
      obtain ⟨rfl, rfl, rfl⟩ := h
      rw [Text.breakOn?_append hb, Text.breakOn?_append hc]
      simp

/-- What follows a directive is shorter than the text. -/
theorem first?_length_lt {k : Kind} {text before body after : List Char}
    (h : first? k text = some (before, body, after)) : after.length < text.length := by
  have := k.opening_length_pos
  rw [first?_append h]
  simp only [List.length_append]
  omega

/-- The directives of a kind in the rest of a text, which begins at `place`. -/
def scanFrom (k : Kind) (place : Nat) (text : List Char) : List Directive :=
  match h : first? k text with
  | none => []
  | some (before, body, after) =>
    have := first?_length_lt h
    let d : Directive := ⟨k, place + before.length, body⟩
    d :: scanFrom k d.span.stop after
termination_by text.length

/-- The directives of a kind, from left to right. -/
def scan (k : Kind) (text : List Char) : List Directive := scanFrom k 0 text

end Directive

/-- The directives of a text, by kind. -/
structure Extraction where
  optional : List Directive
  literal : List Directive
  parameter : List Directive
deriving DecidableEq, Repr

/-- The directives of a text. -/
def extract (text : List Char) : Extraction :=
  ⟨Directive.scan .optional text, Directive.scan .literal text, Directive.scan .parameter text⟩

namespace Extraction

/-- All directives, kind by kind. -/
def all (e : Extraction) : List Directive := e.optional ++ e.literal ++ e.parameter

/-- Whether there is no directive of any kind. -/
def isEmpty (e : Extraction) : Bool := e.all.isEmpty

/-- All directives by their place. Two directives never begin at the same place, because no opening
    marker is the beginning of another one. -/
def inOrder (e : Extraction) : List Directive := e.all.mergeSort fun d d' => d.start ≤ d'.start

end Extraction

end QueryBook
