import Mathlib.Algebra.Order.Ring.Nat
import QueryBook.Decimal.Padded
import QueryBook.Proofs.Text.Order

namespace QueryBook

/-!
# The order of numbers of one width

* `compare_eq_then` — things that are compared by one of their parts first.
* `Decimal.places` — the lowest decimal places of a number, digit by digit.
* `Decimal.compare_padded_append` — numbers written in the same width compare as their digits do.
* `Decimal.groups` — digits in groups of three without the zeros at the end. One such text may be
  the start of another one; they compare as their numbers all the same (`Decimal.compare_groups`).
-/

/-- Things whose first parts differ compare as these; where they agree, the rest decides. -/
theorem compare_eq_then {α β : Type} [LinearOrder α] [LinearOrder β] {x y : α} {a b : β}
    {rest : Ordering} (hlt : a < b → x < y) (hgt : b < a → y < x)
    (heq : a = b → compare x y = rest) : compare x y = (compare a b).then rest := by
  rcases lt_trichotomy a b with h | h | h
  · rw [compare_lt_iff_lt.2 h, compare_lt_iff_lt.2 (hlt h)]
    rfl
  · rw [compare_eq_iff_eq.2 h, heq h]
    rfl
  · rw [compare_gt_iff_gt.2 h, compare_gt_iff_gt.2 (hgt h)]
    rfl

/-- Things that compare as others do. -/
theorem compare_congr {α β : Type} [LinearOrder α] [LinearOrder β] {x y : α} {a b : β}
    (hlt : a < b → x < y) (hgt : b < a → y < x) (heq : a = b → x = y) :
    compare x y = compare a b := by
  rw [compare_eq_then hlt hgt fun h => compare_eq_iff_eq.2 (heq h), Ordering.then_eq]

/-- Numbers compare as their quotients, and then as their remainders. -/
theorem compare_eq_div_then_mod (k a b : Nat) :
    compare a b = (compare (a / k) (b / k)).then (compare (a % k) (b % k)) := by
  refine compare_eq_then Nat.lt_of_div_lt_div Nat.lt_of_div_lt_div fun h => ?_
  have ha := Nat.div_add_mod a k
  have hb := Nat.div_add_mod b k
  rw [h] at ha
  refine compare_congr ?_ ?_ ?_ <;> omega

namespace Decimal

/-- The lowest decimal places of a number. -/
def places : Nat → Nat → List Char
  | 0, _ => []
  | width + 1, n => places width (n / 10) ++ [Nat.digitChar (n % 10)]

@[simp] theorem length_places (width n : Nat) : (places width n).length = width := by
  induction width generalizing n with
  | zero => rfl
  | succ width ih => rw [places, List.length_append, ih, List.length_singleton]

/-- The places from some place on, and those below it. -/
theorem places_add (high low n : Nat) :
    places (high + low) n = places high (n / 10 ^ low) ++ places low n := by
  induction low generalizing n with
  | zero => simp [places]
  | succ low ih =>
    rw [← Nat.add_assoc, places, ih, places, List.append_assoc, Nat.div_div_eq_div_mul,
      Nat.pow_succ']

/-- The lowest places depend on nothing above them. -/
theorem places_mod (width n : Nat) : places width (n % 10 ^ width) = places width n := by
  induction width generalizing n with
  | zero => rfl
  | succ width ih =>
    rw [places, places, Nat.mod_mod_of_dvd n ⟨10 ^ width, Nat.pow_succ'⟩, Nat.pow_succ',
      Nat.mod_mul_right_div_self, ih]

/-- All places of zero are zeros. -/
theorem places_zero (width : Nat) : places width 0 = List.replicate width '0' := by
  induction width with
  | zero => rfl
  | succ width ih =>
    rw [places, Nat.zero_div, ih, List.replicate_succ']
    rfl

/-- A number that is not wider than it is written has no other places. -/
theorem padded_eq_places {width n : Nat} (hwidth : 0 < width) (hn : n < 10 ^ width) :
    padded width n = places width n := by
  induction width generalizing n with
  | zero => exact absurd hwidth (Nat.lt_irrefl 0)
  | succ width ih =>
    -- By the last digit, which is the whole number if the number is below ten.
    by_cases hsmall : n < 10
    · rw [padded, Nat.toDigits_of_lt_base hsmall, places, Nat.div_eq_of_lt hsmall,
        Nat.mod_eq_of_lt hsmall, places_zero]
      rfl
    · have hrest : n / 10 < 10 ^ width := Nat.div_lt_of_lt_mul (by rwa [← Nat.pow_succ'])
      have hpos : 0 < width := by
        by_contra hzero
        obtain rfl : width = 0 := by omega
        exact hsmall hn
      rw [places, ← ih hpos hrest, padded, padded,
        Nat.toDigits_of_base_le (by decide) (Nat.le_of_not_lt hsmall), List.length_append,
        List.length_singleton, Nat.add_sub_add_right, List.append_assoc]

/-- Numbers compare as their lowest places do, if they have no higher ones. -/
theorem compare_places {width a b : Nat} (ha : a < 10 ^ width) (hb : b < 10 ^ width) :
    compare (places width a) (places width b) = compare a b := by
  induction width generalizing a b with
  | zero =>
    obtain rfl := Nat.lt_one_iff.1 ha
    obtain rfl := Nat.lt_one_iff.1 hb
    rfl
  | succ width ih =>
    have hdigits : ∀ c d : Fin 10,
        compare [Nat.digitChar c] [Nat.digitChar d] = compare c.val d.val := by decide
    have hlast := hdigits ⟨a % 10, Nat.mod_lt _ (by decide)⟩ ⟨b % 10, Nat.mod_lt _ (by decide)⟩
    rw [Nat.pow_succ'] at ha hb
    rw [places, places, Text.compare_append (by simp), ih (Nat.div_lt_of_lt_mul ha)
      (Nat.div_lt_of_lt_mul hb), hlast, ← compare_eq_div_then_mod]

/-- **Numbers of one width compare as their digits do**, and then what follows them. -/
theorem compare_padded_append {width a b : Nat} (hwidth : 0 < width) (ha : a < 10 ^ width)
    (hb : b < 10 ^ width) (xs ys : List Char) :
    compare (padded width a ++ xs) (padded width b ++ ys) = (compare a b).then (compare xs ys) := by
  rw [padded_eq_places hwidth ha, padded_eq_places hwidth hb, Text.compare_append (by simp),
    compare_places ha hb]

/-! ### Groups of digits -/

/-- A text that is left out for zero. -/
theorem compare_unless_zero (f : Nat → List Char) (hne : ∀ n, f n ≠ []) {a b : Nat}
    (h : compare (f a) (f b) = compare a b) :
    compare (if a = 0 then [] else f a) (if b = 0 then [] else f b) = compare a b := by
  by_cases ha : a = 0
  · by_cases hb : b = 0
    · rw [if_pos ha, if_pos hb, ha, hb]
      rfl
    · obtain ⟨c, cs, hcs⟩ := List.exists_cons_of_ne_nil (hne b)
      rw [if_pos ha, if_neg hb, hcs, compare_lt_iff_lt.2 (by omega : a < b)]
      rfl
  · by_cases hb : b = 0
    · obtain ⟨c, cs, hcs⟩ := List.exists_cons_of_ne_nil (hne a)
      rw [if_neg ha, if_pos hb, hcs, compare_gt_iff_gt.2 (by omega : b < a)]
      rfl
    · rw [if_neg ha, if_neg hb, h]

/-- The digits of a number of some groups of three, up to the last group that is not zero. -/
def groups : Nat → Nat → List Char
  | 0, _ => []
  | k + 1, n => if n = 0 then [] else places 3 (n / 1000 ^ k) ++ groups k (n % 1000 ^ k)

/-- Numbers compare as their groups do, though zeros are left out at the end. -/
theorem compare_groups {k a b : Nat} (ha : a < 1000 ^ k) (hb : b < 1000 ^ k) :
    compare (groups k a) (groups k b) = compare a b := by
  induction k generalizing a b with
  | zero =>
    obtain rfl := Nat.lt_one_iff.1 ha
    obtain rfl := Nat.lt_one_iff.1 hb
    rfl
  | succ k ih =>
    have hgroup : ∀ n < 1000 ^ (k + 1), n / 1000 ^ k < 10 ^ 3 := fun n hn =>
      Nat.div_lt_of_lt_mul hn
    have hpos : 0 < 1000 ^ k := Nat.pow_pos (by decide)
    -- Zero has no groups at all, so it is set apart; any other number begins with one.
    refine compare_unless_zero (fun n => places 3 (n / 1000 ^ k) ++ groups k (n % 1000 ^ k)) ?_ ?_
    · intro n hnil
      exact absurd (congrArg List.length hnil) (by simp)
    · rw [Text.compare_append (by simp), compare_places (hgroup a ha) (hgroup b hb),
        ih (Nat.mod_lt a hpos) (Nat.mod_lt b hpos), ← compare_eq_div_then_mod]

theorem groups_zero (k : Nat) : groups k 0 = [] := by cases k <;> rfl

end Decimal

end QueryBook
