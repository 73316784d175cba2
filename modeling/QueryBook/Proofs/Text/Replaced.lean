import Mathlib.Data.List.Forall2
import QueryBook.Text.Replace

namespace QueryBook.Text

/-!
# What it means to replace ranges of a text

* `Ascending` — ranges that lie in order between two places, none of them over another.
* `Replaced` — the ranges of some items are replaced, each by something that may become of the
  item, and what stands before, between and behind them is unchanged and in order. That the ranges
  are in order and inside the text follows from the relation and is not asked for.
* `replaced_replaceFrom` — the computation that copies the gaps of ascending ranges does this.
* `Replaced.unique` — if at most one thing becomes of each item, there is one result.
-/

/-! ### Ranges in order -/

/-- The ranges lie between two places, each of them behind the one before. -/
def Ascending (start stop : Nat) : List Span → Prop
  | [] => start ≤ stop
  | s :: ss => start ≤ s.start ∧ s.start ≤ s.stop ∧ Ascending s.stop stop ss

/-- The place where ranges begin is not behind the one where they end. -/
theorem Ascending.le {start stop : Nat} {spans : List Span} (h : Ascending start stop spans) :
    start ≤ stop := by
  induction spans generalizing start with
  | nil => exact h
  | cons s ss ih => exact Nat.le_trans h.1 (Nat.le_trans h.2.1 (ih h.2.2))

/-- Each of the ranges lies between the two places. -/
theorem Ascending.of_mem {start stop : Nat} {spans : List Span} {s : Span}
    (h : Ascending start stop spans) (hs : s ∈ spans) :
    start ≤ s.start ∧ s.start ≤ s.stop ∧ s.stop ≤ stop := by
  induction spans generalizing start with
  | nil => exact absurd hs List.not_mem_nil
  | cons t ts ih =>
    obtain ⟨hstart, hle, hrest⟩ := h
    rcases List.mem_cons.1 hs with rfl | hs
    · exact ⟨hstart, hle, hrest.le⟩
    · obtain ⟨hfirst, hmid, hlast⟩ := ih hrest hs
      exact ⟨by omega, hmid, hlast⟩

/-- A range between the last one and the end may follow. -/
theorem Ascending.concat {start stop : Nat} {spans : List Span} {s : Span}
    (h : Ascending start stop spans)
    (hlast : ((spans.map Span.stop).getLast?.getD start) ≤ s.start) (hs : s.start ≤ s.stop)
    (hstop : s.stop ≤ stop) : Ascending start stop (spans ++ [s]) := by
  induction spans generalizing start with
  | nil => exact ⟨hlast, hs, hstop⟩
  | cons t ts ih =>
    refine ⟨h.1, h.2.1, ih h.2.2 ?_⟩
    rwa [List.map_cons, List.getLast?_cons, Option.getD_some] at hlast

/-! ### Pieces of a range -/

namespace Span

/-- A range that lies in a text is as long as its text. -/
theorem length_slice {s : Span} {text : List Char} (h : s.stop ≤ text.length) :
    (s.slice text).length = s.stop - s.start := by
  rw [slice, List.length_take, List.length_drop]
  omega

/-- The whole text is the range from its beginning to its end. -/
theorem slice_whole (text : List Char) : slice ⟨0, text.length⟩ text = text := by
  simp [slice]

/-- The beginning of a range is a range. -/
theorem take_slice {text : List Char} {start stop mid : Nat} (h : mid ≤ stop) :
    (slice ⟨start, stop⟩ text).take (mid - start) = slice ⟨start, mid⟩ text := by
  rw [slice, slice, List.take_take]
  congr 1
  simp only
  omega

/-- The end of a range is a range. -/
theorem drop_slice {text : List Char} {start stop mid : Nat} (h : start ≤ mid) :
    (slice ⟨start, stop⟩ text).drop (mid - start) = slice ⟨mid, stop⟩ text := by
  have hfrom : start + (mid - start) = mid := by omega
  have hlen : stop - start - (mid - start) = stop - mid := by omega
  simp only [slice, List.drop_take, List.drop_drop, hfrom, hlen]

end Span

/-! ### Replacement -/

section Replaced

variable {α : Type}

/-- In a text that begins at a place, the range of each item is replaced by something that becomes
    of the item; all else stays where it is. -/
inductive Replaced (span : α → Span) (becomes : α → List Char → Prop) :
    Nat → List α → List Char → List Char → Prop
  /-- Behind the last item nothing changes. -/
  | rest (place : Nat) (text : List Char) : Replaced span becomes place [] text text
  /-- What stands before an item is kept, and its range gives way to what becomes of it. -/
  | step {place : Nat} {a : α} {items : List α} {gap old new text out : List Char}
      (hspan : span a = ⟨place + gap.length, place + gap.length + old.length⟩)
      (hnew : becomes a new) (hrest : Replaced span becomes (span a).stop items text out) :
      Replaced span becomes place (a :: items) (gap ++ old ++ text) (gap ++ new ++ out)

variable {span : α → Span} {becomes : α → List Char → Prop} {place : Nat} {items : List α}
  {text out : List Char}

/-- A character in front of a text stays. -/
theorem Replaced.cons (c : Char) (h : Replaced span becomes (place + 1) items text out) :
    Replaced span becomes place items (c :: text) (c :: out) := by
  cases h with
  | rest => exact .rest place (c :: text)
  | @step _ a items gap old new text out hspan hnew hrest =>
    have hspan' : span a = ⟨place + (c :: gap).length, place + (c :: gap).length + old.length⟩ := by
      rw [hspan, List.length_cons, Nat.add_assoc place 1, Nat.add_comm 1]
    exact .step hspan' hnew hrest

/-- A text is cut at the two ends of a range that lies inside it. -/
theorem Replaced.cut {a : α} {new : List Char} (hstart : place ≤ (span a).start)
    (hle : (span a).start ≤ (span a).stop) (hstop : (span a).stop ≤ place + text.length)
    (hnew : becomes a new)
    (hrest : Replaced span becomes (span a).stop items (text.drop ((span a).stop - place)) out) :
    Replaced span becomes place (a :: items) text
      (text.take ((span a).start - place) ++ new ++ out) := by
  -- The text in three: what is kept, what the span covers, and the rest.
  let gap := text.take ((span a).start - place)
  let old := (text.drop ((span a).start - place)).take ((span a).stop - (span a).start)
  have hgap : gap.length = (span a).start - place := by
    simp only [gap, List.length_take]
    omega
  have hold : old.length = (span a).stop - (span a).start := by
    simp only [old, List.length_take, List.length_drop]
    omega
  have htext : gap ++ old ++ text.drop ((span a).stop - place) = text := by
    have hdrop : text.drop ((span a).stop - place) =
        (text.drop ((span a).start - place)).drop ((span a).stop - (span a).start) := by
      rw [List.drop_drop]
      congr 1
      omega
    rw [List.append_assoc, hdrop, List.take_append_drop, List.take_append_drop]
  have hspan : span a = ⟨place + gap.length, place + gap.length + old.length⟩ := by
    have hstart' : (span a).start = place + gap.length := by omega
    have hstop' : (span a).stop = place + gap.length + old.length := by omega
    rw [← hstop', ← hstart']
  have hcut : Replaced span becomes place (a :: items)
      (gap ++ old ++ text.drop ((span a).stop - place)) (gap ++ new ++ out) :=
    .step hspan hnew hrest
  rwa [htext] at hcut

/-- Copying the gaps of ascending ranges replaces the ranges. -/
theorem replaced_replaceFrom {replacements : List (Span × List Char)}
    (h : Ascending place (place + text.length) (replacements.map Prod.fst)) :
    Replaced Prod.fst (fun r new => new = r.2) place replacements text
      (replaceFrom place text replacements) := by
  induction replacements generalizing place text with
  | nil => exact .rest place text
  | cons r rs ih =>
    obtain ⟨hstart, hle, hrest⟩ := h
    refine Replaced.cut hstart hle hrest.le rfl (ih ?_)
    rwa [List.length_drop, show r.1.stop + (text.length - (r.1.stop - place)) =
      place + text.length by have := hrest.le; omega]

/-- Items may be read as other items with the same ranges, of which the same becomes. -/
theorem Replaced.of_forall₂ {β : Type} {span' : β → Span} {becomes' : β → List Char → Prop}
    {others : List β}
    (hitems : List.Forall₂ (fun a b => span a = span' b ∧ ∀ new, becomes' b new → becomes a new)
      items others)
    (h : Replaced span' becomes' place others text out) :
    Replaced span becomes place items text out := by
  induction h generalizing items with
  | rest place text => cases hitems; exact .rest place text
  | step hspan hnew hrest ih =>
    cases hitems with
    | cons hab hmore =>
      exact .step (hab.1.trans hspan) (hab.2 _ hnew) (hab.1 ▸ ih hmore)

/-- If at most one thing becomes of each item, there is one result. -/
theorem Replaced.unique {out' : List Char}
    (hbecomes : ∀ a ∈ items, ∀ new new', becomes a new → becomes a new' → new = new')
    (h : Replaced span becomes place items text out)
    (h' : Replaced span becomes place items text out') : out = out' := by
  induction h generalizing out' with
  | rest => cases h'; rfl
  | @step place a items gap old new text out hspan hnew hrest ih =>
    generalize htext : gap ++ old ++ text = whole at h'
    cases h' with
    | @step _ _ _ gap' old' new' text' out'' hspan' hnew' hrest' =>
      have hends := hspan.symm.trans hspan'
      simp only [Span.mk.injEq] at hends
      -- The cuts are at the same places, so the parts are the same.
      obtain ⟨hleft, rfl⟩ := List.append_inj htext (by simp only [List.length_append]; omega)
      obtain ⟨rfl, rfl⟩ := List.append_inj hleft (by omega)
      have hsame : new = new' := hbecomes a List.mem_cons_self _ _ hnew hnew'
      have hout : out = out'' := ih (fun b hb => hbecomes b (List.mem_cons_of_mem a hb)) hrest'
      rw [hsame, hout]

end Replaced

end QueryBook.Text
