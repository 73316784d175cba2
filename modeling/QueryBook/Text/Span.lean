namespace QueryBook.Text

/-!
# Places in a text

Places count characters from the text's beginning; a `Span` is a half-open range of them. Other
programs count the bytes of the UTF-8 form, which `byteOffset` gives.

* `Span.slice` — the characters of a range.
* `Span.Before`, `Span.Within` — one range ends before another begins; one lies in another.
-/

/-- The characters from place `start` up to place `stop`. -/
structure Span where
  start : Nat
  stop : Nat
deriving DecidableEq, Repr

namespace Span

/-- The characters of a range of a text. -/
def slice (s : Span) (text : List Char) : List Char := (text.drop s.start).take (s.stop - s.start)

/-- One range ends where another begins, or before. -/
def Before (s t : Span) : Prop := s.stop ≤ t.start

/-- One range lies inside another. -/
def Within (s t : Span) : Prop := t.start ≤ s.start ∧ s.stop ≤ t.stop

instance (s t : Span) : Decidable (s.Before t) := inferInstanceAs (Decidable (_ ≤ _))
instance (s t : Span) : Decidable (s.Within t) := inferInstanceAs (Decidable (_ ∧ _))

end Span

/-- The number of bytes of the UTF-8 form. -/
def utf8Length : List Char → Nat
  | [] => 0
  | c :: cs => c.utf8Size + utf8Length cs

/-- The byte of the UTF-8 form at which a place begins. -/
def byteOffset (text : List Char) (place : Nat) : Nat := utf8Length (text.take place)

@[simp] theorem utf8Length_nil : utf8Length [] = 0 := rfl

@[simp] theorem utf8Length_cons (c : Char) (cs : List Char) :
    utf8Length (c :: cs) = c.utf8Size + utf8Length cs := rfl

theorem utf8Length_append (cs ds : List Char) :
    utf8Length (cs ++ ds) = utf8Length cs + utf8Length ds := by
  induction cs with
  | nil => simp
  | cons c cs ih => simp [ih, Nat.add_assoc]

end QueryBook.Text
