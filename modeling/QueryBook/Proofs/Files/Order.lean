import Mathlib.Data.List.Lex
import Mathlib.Data.Prod.Lex
import Mathlib.Data.String.Basic
import QueryBook.Files.Path
import QueryBook.Proofs.Text.Order

namespace QueryBook.Files

/-!
# The order of paths and the extension of a name

* `Part.key`, `Location.le_iff` — paths are compared like rows of keys, so that their order is a
  total one.
* `RowLt`, `Location.le_append_names` — below one directory, paths are compared like the rows of
  names that lead to them.
* `IsXmlName`, `hasXmlExtension_iff` — which names have the extension `xml`.
-/

/-! ### Order -/

/-- What a part is compared by. -/
def Part.key (a : Part) : ℕ ×ₗ String := toLex (a.rank, a.label)

/-- Parts that compare by the same are the same. -/
theorem Part.key_injective : Function.Injective Part.key := by
  intro a b h
  obtain ⟨hrank, hlabel⟩ := Prod.ext_iff.1 (toLex.injective h)
  cases a <;> cases b <;> simp_all [rank, label]

/-- One part is less than another if what it is compared by is less. -/
theorem Part.lt_iff {a b : Part} : a.lt b = true ↔ a.key < b.key := by
  rw [Part.lt, key, key, Prod.Lex.toLex_lt_toLex]
  simp

/-- A row of names comes before another one: the first name that differs decides, by its bytes, and
    a row comes before those that go on from it. -/
def RowLt : List String → List String → Prop :=
  List.Lex fun a b => Text.compareBytes a b = .lt

/-- Rows of names are in the order of lists. -/
theorem rowLt_iff {names names' : List String} : RowLt names names' ↔ names < names' := by
  have hlt : (fun a b : String => Text.compareBytes a b = .lt) = (· < ·) := by
    funext a b
    rw [Text.compareBytes_eq, Text.compare_chars_eq_lt, ← String.lt_iff]
  rw [RowLt, hlt, List.lex_lt]

/-- Rows whose first items are given. -/
theorem not_cons_lt_cons {α : Type} [LinearOrder α] {a b : α} {as bs : List α} :
    ¬ b :: bs < a :: as ↔ a < b ∨ a = b ∧ ¬ bs < as := by
  rw [List.cons_lt_cons_iff]
  rcases lt_trichotomy a b with hlt | rfl | hgt
  · simp [hlt, hlt.asymm, hlt.ne']
  · simp
  · simp [hgt, hgt.asymm, hgt.ne']

namespace Location

/-- Paths are compared like the rows of their keys. -/
theorem le_iff {as bs : Location} :
    Location.le as bs = true ↔ ¬ bs.map Part.key < as.map Part.key := by
  induction as generalizing bs with
  | nil => simp [Location.le]
  | cons a as ih =>
    cases bs with
    | nil => simp [Location.le]
    | cons b bs =>
      rw [Location.le, List.map_cons, List.map_cons, not_cons_lt_cons, Bool.or_eq_true,
        Bool.and_eq_true, Part.lt_iff, ih, beq_iff_eq, Part.key_injective.eq_iff]

variable {as bs cs : Location}

protected theorem le_trans (h : Location.le as bs = true) (h' : Location.le bs cs = true) :
    Location.le as cs = true :=
  le_iff.2 (not_lt.2 ((not_lt.1 (le_iff.1 h)).trans (not_lt.1 (le_iff.1 h'))))

protected theorem le_total (as bs : Location) :
    (Location.le as bs || Location.le bs as) = true := by
  rw [Bool.or_eq_true, le_iff, le_iff, not_lt, not_lt]
  exact le_total _ _

protected theorem le_antisymm (h : Location.le as bs = true) (h' : Location.le bs as = true) :
    as = bs :=
  List.map_injective_iff.2 Part.key_injective
    (le_antisymm (not_lt.1 (le_iff.1 h)) (not_lt.1 (le_iff.1 h')))

/-- Below one directory, paths are compared like the rows of names that lead to them. -/
theorem le_append_names (place : Location) {names names' : List String} :
    Location.le (place ++ names.map .name) (place ++ names'.map .name) = true ↔
      ¬ RowLt names' names := by
  induction place with
  | nil =>
    -- The place in front is the same for both, so the names decide.
    rw [rowLt_iff, List.nil_append, List.nil_append]
    induction names generalizing names' with
    | nil => simp [Location.le]
    | cons n names ih =>
      cases names' with
      | nil => simp [Location.le]
      | cons n' names' =>
        have hlt : (Part.name n).lt (.name n') = true ↔ n < n' := by
          simp [Part.lt, Part.rank, Part.label]
        rw [List.map_cons, List.map_cons, Location.le, Bool.or_eq_true, Bool.and_eq_true, ih, hlt,
          beq_iff_eq, Part.name.injEq, not_cons_lt_cons]
  | cons a place ih =>
    have hlt : a.lt a = false := by simp [Part.lt]
    rw [List.cons_append, List.cons_append, Location.le, hlt, ih.symm]
    simp

end Location

/-! ### Extension -/

/-- The name has the extension `xml`: three letters, in any case, behind the last point, and
    something in front of this point. -/
def IsXmlName (name : String) : Prop :=
  ∃ stem extension : List Char, name.toList = stem ++ '.' :: extension ∧ stem ≠ [] ∧
    '.' ∉ extension ∧ extension.map Char.toLower = ['x', 'm', 'l']

/-- Only the point itself is a point in lower case. -/
theorem eq_point_of_toLower {c : Char} (h : c.toLower = '.') : c = '.' := by
  delta Char.toLower at h
  split at h
  · next hletter =>
    have hval : c.val + 32 = 46 := congrArg Char.val h
    have hge : 65 ≤ c.val.toNat := hletter.1
    have hle : c.val.toNat ≤ 90 := hletter.2
    have hnat := congrArg UInt32.toNat hval
    rw [UInt32.toNat_add] at hnat
    have hsum : (c.val.toNat + 32) % 4294967296 = 46 := hnat
    omega
  · exact h

/-- The test for the extension finds the names that have it. -/
theorem hasXmlExtension_iff {name : String} : hasXmlExtension name = true ↔ IsXmlName name := by
  rw [hasXmlExtension, Bool.and_eq_true, beq_iff_eq, decide_eq_true_eq]
  constructor
  · rintro ⟨hlast, hlength⟩
    simp only [List.map_eq_cons_iff, List.map_eq_nil_iff] at hlast
    obtain ⟨l, _, htake, hl, m, _, rfl, hm, x, _, rfl, hx, point, _, rfl, hpoint, rfl⟩ := hlast
    obtain rfl := eq_point_of_toLower hpoint
    -- Read from the end, the name is the extension, the point and the stem.
    have hname : name.toList = (name.toList.reverse.drop 4).reverse ++ '.' :: [x, m, l] := by
      have hsplit := List.take_append_drop 4 name.toList.reverse
      rw [htake] at hsplit
      rw [← List.reverse_inj, ← hsplit]
      simp
    have hlower : [x, m, l].map Char.toLower = ['x', 'm', 'l'] := by simp [hl, hm, hx]
    refine ⟨_, _, hname, ?_, fun hmem => ?_, hlower⟩
    · rw [List.reverse_ne_nil_iff, ← List.length_pos_iff, List.length_drop]
      omega
    · have hpoint := List.mem_map_of_mem (f := Char.toLower) hmem
      rw [hlower] at hpoint
      exact absurd hpoint (by decide)
  · rintro ⟨stem, extension, hname, hstem, -, hlower⟩
    have hlength : extension.length = 3 := by simpa using congrArg List.length hlower
    have hrev : name.toList.reverse = extension.reverse ++ '.' :: stem.reverse := by
      rw [hname]
      simp
    have hfour : 0 < stem.length := List.length_pos_iff.2 hstem
    rw [hrev, List.take_append, List.map_append, List.map_take, List.map_reverse, hlower]
    simp [hlength]
    omega

end QueryBook.Files
