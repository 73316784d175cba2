import QueryBook.Text.Span

namespace QueryBook.Text

/-!
# Replacing ranges of a text

* `replaceFrom`, `replaceSpans` — a text with new characters in the place of some of its ranges, all
  replaced at once. The ranges are given in ascending order and do not overlap.

Main statement: ranges that are replaced by what they hold change nothing (`replaceSpans_slice`).
-/

/-- The text from place `cursor` on, which is `rest`, with ranges replaced. -/
def replaceFrom (cursor : Nat) (rest : List Char) : List (Span × List Char) → List Char
  | [] => rest
  | (span, new) :: more =>
    rest.take (span.start - cursor) ++ new ++
      replaceFrom span.stop (rest.drop (span.stop - cursor)) more

/-- A text with ranges replaced. -/
def replaceSpans (text : List Char) (replacements : List (Span × List Char)) : List Char :=
  replaceFrom 0 text replacements

@[simp] theorem replaceFrom_nil (cursor : Nat) (rest : List Char) :
    replaceFrom cursor rest [] = rest := rfl

@[simp] theorem replaceSpans_nil (text : List Char) : replaceSpans text [] = text := rfl

/-- A range of the whole text, cut out of a rest of it. -/
private theorem take_append_slice_drop {text : List Char} {cursor : Nat} {s : Span}
    (hs : cursor ≤ s.start) (hl : s.start ≤ s.stop) :
    (text.drop cursor).take (s.start - cursor) ++ s.slice text ++
      (text.drop cursor).drop (s.stop - cursor) = text.drop cursor := by
  have h₁ : (text.drop cursor).drop (s.start - cursor) = text.drop s.start := by
    rw [List.drop_drop]; congr 1; omega
  have h₂ : (text.drop cursor).drop (s.stop - cursor) =
      (text.drop s.start).drop (s.stop - s.start) := by
    rw [List.drop_drop, List.drop_drop]; congr 1; omega
  rw [h₂, List.append_assoc, Span.slice, List.take_append_drop, ← h₁, List.take_append_drop]

/-- Ascending ranges that are replaced by what they hold change nothing. -/
theorem replaceFrom_slice (text : List Char) (cursor : Nat) (spans : List Span)
    (hlen : ∀ s ∈ spans, s.start ≤ s.stop) (hfirst : ∀ s ∈ spans, cursor ≤ s.start)
    (hasc : spans.Pairwise Span.Before) :
    replaceFrom cursor (text.drop cursor) (spans.map fun s => (s, s.slice text)) =
      text.drop cursor := by
  induction spans generalizing cursor with
  | nil => rfl
  | cons s ss ih =>
    have hs := hfirst s (by simp)
    have hl := hlen s (by simp)
    have hd : (text.drop cursor).drop (s.stop - cursor) = text.drop s.stop := by
      rw [List.drop_drop]; congr 1; omega
    have hss : replaceFrom s.stop (text.drop s.stop) (ss.map fun s => (s, s.slice text)) =
        text.drop s.stop :=
      ih s.stop (fun t ht => hlen t (by simp [ht]))
        (fun t ht => (List.pairwise_cons.1 hasc).1 t ht) (List.pairwise_cons.1 hasc).2
    rw [List.map_cons, replaceFrom, hd, hss, ← hd]
    exact take_append_slice_drop hs hl

/-- The same for a whole text. -/
theorem replaceSpans_slice (text : List Char) (spans : List Span)
    (hlen : ∀ s ∈ spans, s.start ≤ s.stop) (hasc : spans.Pairwise Span.Before) :
    replaceSpans text (spans.map fun s => (s, s.slice text)) = text := by
  simpa [replaceSpans] using replaceFrom_slice text 0 spans hlen (by simp) hasc

end QueryBook.Text
