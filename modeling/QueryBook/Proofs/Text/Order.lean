import Mathlib.Data.Char
import Mathlib.Order.Compare
import Mathlib.Tactic.SplitIfs

namespace QueryBook.Text

/-!
# The order of texts

* `compareBytes` — the order of two texts by their bytes, as a database compares them.
* `compareBytes_eq` — it is the order by characters, for the bytes of a character are less than
  those of a greater one (`compare_utf8_lt`).
* `compareBytes_ne_gt` — it is the order in which texts are sorted.
* `compare_append` — texts whose starts are of one length are compared by their starts first.
-/

/-- The order of two texts by their bytes. -/
def compareBytes (a b : String) : Ordering :=
  compare a.toUTF8.data.toList b.toUTF8.data.toList

/-- Texts with beginnings of one length compare by these first. -/
theorem compare_append {α : Type} [Ord α] {xs xs' : List α} (h : xs.length = xs'.length)
    (ys ys' : List α) :
    compare (xs ++ ys) (xs' ++ ys') = (compare xs xs').then (compare ys ys') := by
  induction xs generalizing xs' with
  | nil =>
    obtain rfl := List.length_eq_zero_iff.1 h.symm
    rfl
  | cons x xs ih =>
    cases xs' with
    | nil => cases h
    | cons x' xs' =>
      simp only [List.cons_append, List.compare_cons_cons, ih (Nat.succ.inj h),
        Ordering.then_assoc]

/-- A start that both have does not count. -/
theorem compare_append_left {α : Type} [Ord α] [Std.ReflOrd α] (xs ys ys' : List α) :
    compare (xs ++ ys) (xs ++ ys') = compare ys ys' := by
  rw [compare_append rfl, Std.compare_self, Ordering.eq_then]

/-- Behind an equal beginning the rest decides. -/
theorem compare_cons_self {α : Type} [Ord α] [Std.ReflOrd α] (x : α) (xs ys : List α) :
    compare (x :: xs) (x :: ys) = compare xs ys :=
  compare_append_left [x] xs ys

/-! ### Bytes -/

/-- Lists of bytes whose first ones are given as numbers. -/
theorem compare_ofNat_cons {m n : Nat} (hm : m < 256) (hn : n < 256) (xs ys : List UInt8) :
    compare (UInt8.ofNat m :: xs) (UInt8.ofNat n :: ys) = .lt ↔
      m < n ∨ m = n ∧ compare xs ys = .lt := by
  have hlt : UInt8.ofNat m < UInt8.ofNat n ↔ m < n := by
    rw [UInt8.lt_iff_toNat_lt, UInt8.toNat_ofNat', UInt8.toNat_ofNat', Nat.mod_eq_of_lt hm,
      Nat.mod_eq_of_lt hn]
  have heq : UInt8.ofNat m = UInt8.ofNat n ↔ m = n := by
    rw [← UInt8.toNat_inj, UInt8.toNat_ofNat', UInt8.toNat_ofNat', Nat.mod_eq_of_lt hm,
      Nat.mod_eq_of_lt hn]
  rw [List.compare_cons_cons, Ordering.then_eq_lt, Std.compare_eq_lt, hlt,
    Std.LawfulEqOrd.compare_eq_iff_eq, heq]

/-- The bytes of a character are less than those of a greater one, whatever follows them. -/
theorem compare_utf8_lt {c d : Char} (h : c < d) (xs ys : List UInt8) :
    compare (String.utf8EncodeChar c ++ xs) (String.utf8EncodeChar d ++ ys) = .lt := by
  have hlt : c.val.toNat < d.val.toNat := h
  have hd : d.val.toNat < 0x110000 := by
    rcases d.valid with hd | ⟨-, hd⟩
    · exact Nat.lt_trans hd (by decide)
    · exact hd
  generalize hv : c.val.toNat = v at *
  generalize hw : d.val.toNat = w at *
  -- Each byte holds a place of the number in base 64; the places are taken one from another.
  have hplaces : ∀ n : Nat, n / 4096 = n / 64 / 64 ∧ n / 262144 = n / 64 / 64 / 64 := by
    intro n
    omega
  simp only [String.utf8EncodeChar, hv, hw, hplaces]
  split_ifs <;>
    simp (disch := omega) only [List.cons_append, List.nil_append, compare_ofNat_cons] <;> omega

/-- Texts compare by their bytes as they do by their characters. -/
theorem compare_flatMap_utf8 (cs ds : List Char) :
    compare (cs.flatMap String.utf8EncodeChar) (ds.flatMap String.utf8EncodeChar) =
      compare cs ds := by
  -- Every character has a byte, so the text that ends first is the smaller one.
  have hne : ∀ c : Char, ∃ b bs, String.utf8EncodeChar c = b :: bs := fun c =>
    List.exists_cons_of_ne_nil String.utf8EncodeChar_ne_nil
  induction cs generalizing ds with
  | nil =>
    cases ds with
    | nil => rfl
    | cons d ds =>
      obtain ⟨b, bs, hd⟩ := hne d
      rw [List.flatMap_cons, hd]
      rfl
  | cons c cs ih =>
    cases ds with
    | nil =>
      obtain ⟨b, bs, hc⟩ := hne c
      rw [List.flatMap_cons, hc]
      rfl
    | cons d ds =>
      rw [List.flatMap_cons, List.flatMap_cons, List.compare_cons_cons]
      rcases lt_trichotomy c d with hlt | rfl | hgt
      · rw [compare_utf8_lt hlt, compare_lt_iff_lt.2 hlt]
        rfl
      · rw [compare_append_left, ih, compare_eq_iff_eq.2 rfl, Ordering.eq_then]
      · rw [Std.OrientedOrd.eq_swap, compare_utf8_lt hgt, compare_gt_iff_gt.2 hgt]
        rfl

/-- **UTF-8 keeps the order of characters.** -/
theorem compareBytes_eq (a b : String) : compareBytes a b = compare a.toList b.toList := by
  have hbytes : ∀ s : String, s.toUTF8.data.toList = s.toList.flatMap String.utf8EncodeChar := by
    intro s
    rw [String.toUTF8, ← String.utf8Encode_toList, List.utf8Encode, List.toList_data_toByteArray]
  rw [compareBytes, hbytes, hbytes, compare_flatMap_utf8]

/-- A text that compares as less is less in the order of lists. -/
theorem compare_chars_eq_lt {cs ds : List Char} : compare cs ds = .lt ↔ cs < ds := by
  induction cs generalizing ds with
  | nil => cases ds <;> simp [List.compare_nil_cons]
  | cons c cs ih =>
    cases ds with
    | nil => simp
    | cons d ds =>
      rw [List.compare_cons_cons, Ordering.then_eq_lt, List.cons_lt_cons_iff, ih,
        compare_lt_iff_lt, compare_eq_iff_eq]

/-- A text that does not come later by its bytes is at most the other. -/
theorem compareBytes_ne_gt {a b : String} : compareBytes a b ≠ .gt ↔ a ≤ b := by
  rw [compareBytes_eq, ne_eq, Std.OrientedOrd.eq_swap, Ordering.swap_eq_gt, compare_chars_eq_lt,
    ← String.lt_iff, String.not_lt]

end QueryBook.Text
