import Mathlib.Tactic.IntervalCases
import QueryBook.Postgres.Encoding
import QueryBook.Proofs.Decimal.Rounding

namespace QueryBook

open Decimal (Layout Number)

/-!
# Numbers on the wire

Which format a number is sent in, the value says; how the bytes are read, the type of the column
says. The two agree for whole numbers in whole-number types and for floating-point numbers in
floating-point types, and else only by accident.

* `Postgres.Format`, `Format.read?` — the binary formats of the numeric types, and how bytes are
  read.
* `Format.Carries`, `Faithful` — the number that is read is the one that was sent, or the nearest
  one of 32 bits; a fault is faithful too.
* `Decimal.ofBits_double_eq_ofInt_iff` — the same 64 bits stand for one number as a whole number and
  as a floating-point number only if they are all zero.
* `Postgres.faithful_encode_iff` — which values are sent faithfully as which types, and when there
  is a fault.
-/

/-! ### Bits of both formats -/

namespace Decimal

/-- The size of a number of 64 bits that is a whole number, as an equation between whole numbers. -/
theorem eq_of_magnitude_eq_natCast {fraction exponent n : Nat}
    (h : (2 ^ 52 + (fraction : ℚ)) * 2 ^ ((exponent : ℤ) - 1075) = n) :
    1075 ≤ exponent ∧ (2 ^ 52 + fraction) * 2 ^ (exponent - 1075) = n ∨
      exponent < 1075 ∧ 2 ^ 52 + fraction = n * 2 ^ (1075 - exponent) := by
  rcases Nat.lt_or_ge exponent 1075 with hlt | hge
  · right
    refine ⟨hlt, ?_⟩
    have hpower : (2 : ℚ) ^ ((exponent : ℤ) - 1075) * 2 ^ (1075 - exponent) = 1 := by
      rw [← zpow_natCast, ← zpow_add₀ two_ne_zero, Nat.cast_sub hlt.le]
      norm_num
    have : (2 ^ 52 + (fraction : ℚ)) = n * 2 ^ (1075 - exponent) := by
      rw [← h, mul_assoc, hpower, mul_one]
    exact_mod_cast this
  · left
    refine ⟨hge, ?_⟩
    rw [show (exponent : ℤ) - 1075 = ((exponent - 1075 : Nat) : ℤ) by omega, zpow_natCast] at h
    exact_mod_cast h

/-- No bits with an exponent stand for the same size as a whole number, read with or without the
    sign bit. -/
theorem size_ne_of_exponent_pos {fraction exponent n : Nat} (hfraction : fraction < 2 ^ 52)
    (hpos : 0 < exponent) (hexponent : exponent < 2 ^ 11)
    (hn : n = exponent * 2 ^ 52 + fraction ∨ n + (exponent * 2 ^ 52 + fraction) = 2 ^ 63) :
    (2 ^ 52 + (fraction : ℚ)) * 2 ^ ((exponent : ℤ) - 1075) ≠ n := by
  intro h
  rcases eq_of_magnitude_eq_natCast h with ⟨hlarge, heq⟩ | ⟨hsmall, heq⟩
  · -- The number has no more than 63 digits, and in none of the binades left is there a solution.
    obtain ⟨k, rfl⟩ := Nat.exists_eq_add_of_le hlarge
    rw [Nat.add_sub_cancel_left] at heq
    have hpower : 2 ^ 52 * 2 ^ k ≤ 2 ^ 52 * 2 ^ 11 := by
      calc 2 ^ 52 * 2 ^ k ≤ (2 ^ 52 + fraction) * 2 ^ k := Nat.mul_le_mul_right _ (by omega)
        _ = n := heq
        _ ≤ 2 ^ 52 * 2 ^ 11 := by omega
    have hk : k ≤ 11 :=
      (Nat.pow_le_pow_iff_right (by norm_num)).1 (Nat.le_of_mul_le_mul_left hpower (by positivity))
    interval_cases k <;> omega
  · -- As a floating-point number the bits are smaller than as a whole number.
    have hpower : 2 ^ 1 ≤ 2 ^ (1075 - exponent) := Nat.pow_le_pow_right two_pos (by omega)
    have hdouble : n * 2 ^ 1 ≤ n * 2 ^ (1075 - exponent) := Nat.mul_le_mul_left n hpower
    omega

/-- The same holds of a fraction alone, unless it is zero. -/
theorem fraction_eq_zero_of_size_eq {fraction n : Nat} (place : Nat) (hfraction : fraction < 2 ^ 52)
    (hplace : 52 ≤ place) (h : (fraction : ℚ) * 2 ^ (-(place : ℤ)) = n) :
    fraction = 0 ∧ n = 0 := by
  have heq : fraction = n * 2 ^ place := by
    have : (fraction : ℚ) = n * 2 ^ place := by
      rw [← h, zpow_neg, zpow_natCast, inv_mul_cancel_right₀ (by positivity)]
    exact_mod_cast this
  rcases Nat.eq_zero_or_pos n with rfl | hpos
  · exact ⟨heq.trans (Nat.zero_mul _), rfl⟩
  · have hpower : 2 ^ 52 ≤ 2 ^ place := Nat.pow_le_pow_right two_pos hplace
    have hlarge : 2 ^ place ≤ n * 2 ^ place := Nat.le_mul_of_pos_left _ hpos
    omega

/-- The number of eight bytes with a sign, by its size. -/
theorem natAbs_ofTwosComplement {bits : Nat} (hbits : bits < 2 ^ 64) :
    bits < 2 ^ 63 ∧ (Postgres.ofTwosComplement 8 bits).natAbs = bits ∨
      2 ^ 63 ≤ bits ∧ (Postgres.ofTwosComplement 8 bits).natAbs + bits = 2 ^ 64 := by
  have hcapacity : Postgres.capacity 8 = 2 ^ 64 := by decide
  unfold Postgres.ofTwosComplement
  rw [hcapacity]
  split <;> omega

/-- **The formats of 64 bits have one number in common for the same bits: zero.** -/
theorem ofBits_double_eq_ofInt_iff {bits : Nat} (hbits : bits < 2 ^ 64) :
    Number.ofBits .double bits = Number.ofInt (Postgres.ofTwosComplement 8 bits) ↔ bits = 0 := by
  constructor
  · intro h
    rw [Number.ofBits_double, Layout.magnitude_double, Number.ofInt] at h
    have hsize := natAbs_ofTwosComplement hbits
    generalize (Postgres.ofTwosComplement 8 bits).natAbs = n at h hsize
    have hfraction : bits % 2 ^ 52 < 2 ^ 52 := Nat.mod_lt _ (by norm_num)
    -- By the exponent: no integer is infinite, and only zero is as small as a subnormal.
    split at h
    · split at h <;> exact absurd h (by simp)
    · next hlast =>
      rw [Number.finite.injEq] at h
      replace h := h.2
      split at h
      · obtain ⟨hzero, rfl⟩ := fraction_eq_zero_of_size_eq 1074 hfraction (by norm_num) h
        omega
      · next hfirst =>
        refine absurd h (size_ne_of_exponent_pos hfraction (by omega) (by omega) ?_)
        omega
  · rintro rfl
    rw [Number.ofBits_double, if_neg (by decide), Layout.magnitude_double, if_pos (by decide),
      Number.ofInt]
    have hzero : Postgres.ofTwosComplement 8 0 = 0 := by decide
    rw [hzero]
    norm_num

end Decimal

namespace Postgres

/-! ### Formats -/

/-- The binary format of a numeric type. -/
inductive Format where
  /-- A whole number with a sign in a number of bytes. -/
  | whole (width : Nat)
  | floating (layout : Layout)
deriving DecidableEq, Repr

/-- The format that a numeric type is read in. -/
def ColumnType.format? : ColumnType → Option Format
  | int2 => some (.whole 2)
  | int4 => some (.whole 4)
  | int8 => some (.whole 8)
  | float4 => some (.floating .single)
  | float8 => some (.floating .double)
  | _ => none

namespace Format

/-- How many bytes there are. -/
def width : Format → Nat
  | whole width => width
  | floating layout => layout.width

/-- The number that bytes stand for. -/
def number : Format → List UInt8 → Number
  | whole width, bs => .ofInt (ofTwosComplement width (ofBigEndian bs))
  | floating layout, bs => .ofBits layout (ofBigEndian bs)

/-- The number that is read, if there are as many bytes as the format has. -/
def read? (f : Format) (bs : List UInt8) : Option Number :=
  if bs.length = f.width then some (f.number bs) else none

/-- The number that has to arrive for a value: the value's own, or for a floating-point number in 32
    bits the nearest one. -/
def Carries (f : Format) (v : Value) (y : Number) : Prop :=
  match v with
  | .int n => y = .ofInt n.toInt
  | .float x =>
    if f = floating .single then (Number.ofBits .double x.toBits.toNat).RoundsTo .single y
    else y = .ofBits .double x.toBits.toNat
  | _ => False

end Format

/-- A value is not sent, or the number that is read is the one that has to arrive. -/
def Faithful (f : Format) (v : Value) : Except EncodeFault Encoded → Prop
  | .error _ => True
  | .ok .null => False
  | .ok (.bytes bs) => ∃ y, f.read? bs = some y ∧ f.Carries v y

/-! ### What is read back -/

/-- The number of values that so many bytes can have. -/
theorem capacity_eq (width : Nat) : capacity width = 2 ^ (8 * width) := by
  induction width with
  | zero => rfl
  | succ width ih =>
    rw [capacity, ih, show 8 * (width + 1) = 8 * width + 8 by omega, pow_add]
    norm_num

/-- The two's complement of a number fits in the bytes. -/
theorem twosComplement_lt (width : Nat) (n : ℤ) : twosComplement width n < 2 ^ (8 * width) := by
  have hpos : (0 : ℤ) < capacity width := by exact_mod_cast capacity_pos width
  have hlow := Int.emod_nonneg n hpos.ne'
  have hhigh := Int.emod_lt_of_pos n hpos
  rw [← capacity_eq]
  unfold twosComplement
  omega

/-- Bits that fit are read back from their bytes. -/
theorem ofBigEndian_bigEndian_of_lt (width : Nat) {bits : Nat} (h : bits < 2 ^ (8 * width)) :
    ofBigEndian (bigEndian width bits) = bits := by
  rw [ofBigEndian_bigEndian, capacity_eq, Nat.mod_eq_of_lt h]

/-- A whole number that fits is read back from its bytes. -/
theorem number_whole_twosComplement {width : Nat} {n : ℤ} (low : -(capacity width : ℤ) ≤ 2 * n)
    (high : 2 * n < (capacity width : ℤ)) :
    (Format.whole width).number (bigEndian width (twosComplement width n)) = .ofInt n := by
  rw [Format.number, ofBigEndian_bigEndian_of_lt width (twosComplement_lt width n),
    ofTwosComplement_twosComplement low high]

/-- Bytes that are too many or too few are not read. -/
theorem not_faithful_of_length_ne {f : Format} {v : Value} {bs : List UInt8}
    (h : bs.length ≠ f.width) : ¬ Faithful f v (.ok (.bytes bs)) := by
  rintro ⟨y, hy, -⟩
  rw [Format.read?, if_neg h] at hy
  exact absurd hy (by simp)

/-- Bytes of the right length are faithful if they stand for the number that has to arrive. -/
theorem faithful_iff_of_length_eq {f : Format} {v : Value} {bs : List UInt8}
    (h : bs.length = f.width) :
    Faithful f v (.ok (.bytes bs)) ↔ f.Carries v (f.number bs) := by
  simp [Faithful, Format.read?, h]

/-- The bytes of a whole number, if it fits. -/
theorem encodeInt_cases (width : Nat) (n : ℤ) :
    (∃ fault, encodeInt width n = .error fault) ∧
        ¬ (-(capacity width : ℤ) ≤ 2 * n ∧ 2 * n < capacity width) ∨
      encodeInt width n = .ok (.bytes (bigEndian width (twosComplement width n))) ∧
        -(capacity width : ℤ) ≤ 2 * n ∧ 2 * n < capacity width := by
  unfold encodeInt
  split
  · exact .inl ⟨⟨_, rfl⟩, by omega⟩
  · split
    · exact .inl ⟨⟨_, rfl⟩, by omega⟩
    · exact .inr ⟨rfl, by omega, by omega⟩

/-- A whole number arrives as a whole number, or it does not fit. -/
theorem faithful_encodeInt (width : Nat) (n : Int64) :
    Faithful (.whole width) (.int n) (encodeInt width n.toInt) := by
  rcases encodeInt_cases width n.toInt with ⟨⟨fault, h⟩, -⟩ | ⟨h, low, high⟩
  · rw [h]
    trivial
  · rw [h]
    refine (faithful_iff_of_length_eq (f := .whole width) (length_bigEndian _ _)).2 ?_
    exact number_whole_twosComplement low high

/-- Eight bytes hold every whole number of 64 bits. -/
theorem encodeInt_eight (n : Int64) :
    encodeInt 8 n.toInt = .ok (.bytes (bigEndian 8 (twosComplement 8 n.toInt))) ∧
      ofTwosComplement 8 (twosComplement 8 n.toInt) = n.toInt := by
  have hcapacity : capacity 8 = 2 ^ 64 := by decide
  have hlow : -2 ^ 63 ≤ n.toInt := n.le_toInt
  have hhigh : n.toInt < 2 ^ 63 := n.toInt_lt
  rcases encodeInt_cases 8 n.toInt with ⟨-, h⟩ | ⟨h, low, high⟩
  · rw [hcapacity] at h
    omega
  · exact ⟨h, ofTwosComplement_twosComplement low high⟩

/-! ### Which values arrive -/

variable {t : ColumnType} {f : Format}

/-- A whole number arrives in every whole-number type that it fits in, zero in 64 bits of a
    floating-point number too, and nothing else. -/
theorem faithful_encode_int (ht : t.format? = some f) (n : Int64) :
    Faithful f (.int n) (encode t (.int n)) ↔
      (∃ width, f = .whole width) ∨ n = 0 ∧ f = .floating .double := by
  obtain ⟨hbytes, hback⟩ := encodeInt_eight n
  cases t <;> cases ht
  case int2 | int4 | int8 => exact iff_of_true (faithful_encodeInt _ n) (.inl ⟨_, rfl⟩)
  case float4 =>
    show Faithful _ _ (encodeInt 8 n.toInt) ↔ _
    -- Eight bytes are sent where four are read.
    rw [hbytes]
    refine iff_of_false (not_faithful_of_length_ne ?_) (by simp [Layout.single, Layout.double])
    rw [length_bigEndian]
    decide
  case float8 =>
    show Faithful _ _ (encodeInt 8 n.toInt) ↔ _
    have hbits : twosComplement 8 n.toInt < 2 ^ 64 := twosComplement_lt 8 n.toInt
    -- The bits of the integer are read as those of a double; only zero means the same.
    have hzero : twosComplement 8 n.toInt = 0 ↔ n = 0 := by
      constructor
      · intro h
        rw [h, show ofTwosComplement 8 0 = 0 by decide] at hback
        exact Int64.toInt_inj.1 (hback.symm.trans (by decide))
      · rintro rfl
        decide
    rw [hbytes, faithful_iff_of_length_eq (f := .floating .double) (length_bigEndian 8 _),
      Format.number, ofBigEndian_bigEndian_of_lt 8 hbits]
    show Number.ofBits .double _ = .ofInt n.toInt ↔ _
    have hcommon := Decimal.ofBits_double_eq_ofInt_iff hbits
    rw [hback, hzero] at hcommon
    rw [hcommon]
    simp

/-- A floating-point number arrives in both floating-point types, the zero without a sign in a
    whole number of eight bytes too, and nothing else. -/
theorem faithful_encode_float (ht : t.format? = some f) (x : Float) :
    Faithful f (.float x) (encode t (.float x)) ↔
      (∃ layout, f = .floating layout) ∨ x.toBits = 0 ∧ f = .whole 8 := by
  have hbits : x.toBits.toNat < 2 ^ 64 := UInt64.toNat_lt x.toBits
  cases t <;> cases ht
  case int2 | int4 =>
    -- The eight bytes of a double are more than the column reads.
    refine iff_of_false (not_faithful_of_length_ne ?_) (by simp)
    show (bigEndian 8 _).length ≠ _
    rw [length_bigEndian]
    decide
  case int8 =>
    show Faithful (.whole 8) (.float x) (.ok (.bytes (bigEndian 8 x.toBits.toNat))) ↔ _
    rw [faithful_iff_of_length_eq (f := .whole 8) (length_bigEndian 8 _), Format.number,
      ofBigEndian_bigEndian_of_lt 8 hbits]
    show Number.ofInt _ = .ofBits .double _ ↔ _
    rw [eq_comm, Decimal.ofBits_double_eq_ofInt_iff hbits, ← UInt64.toNat_inj]
    simp
  case float4 =>
    refine iff_of_true ?_ (.inl ⟨_, rfl⟩)
    show Faithful (.floating .single) (.float x) (.ok (.bytes (bigEndian 4 (Decimal.singleBits x))))
    rw [faithful_iff_of_length_eq (f := .floating .single) (length_bigEndian 4 _), Format.number,
      ofBigEndian_bigEndian_of_lt 4 (Decimal.singleBits_lt x)]
    exact Decimal.roundsTo_singleBits x
  case float8 =>
    refine iff_of_true ?_ (.inl ⟨_, rfl⟩)
    show Faithful (.floating .double) (.float x) (.ok (.bytes (bigEndian 8 x.toBits.toNat)))
    rw [faithful_iff_of_length_eq (f := .floating .double) (length_bigEndian 8 _), Format.number,
      ofBigEndian_bigEndian_of_lt 8 hbits]
    rfl

/-- The range of a whole number of some bytes. -/
theorem fits_iff {width : Nat} (hwidth : 0 < width) (n : ℤ) :
    (-(capacity width : ℤ) ≤ 2 * n ∧ 2 * n < capacity width) ↔
      -2 ^ (8 * width - 1) ≤ n ∧ n < 2 ^ (8 * width - 1) := by
  have hcapacity : (capacity width : ℤ) = 2 * 2 ^ (8 * width - 1) := by
    rw [capacity_eq, ← pow_succ']
    push_cast
    congr 1
    omega
  rw [hcapacity]
  omega

/-- The only fault is a whole number that does not fit in a whole-number type. -/
theorem exists_encode_eq_error_iff (ht : t.format? = some f) {v : Value}
    (hv : (∃ n, v = .int n) ∨ ∃ x, v = .float x) :
    (∃ fault, encode t v = .error fault) ↔ ∃ n width, v = .int n ∧ f = .whole width ∧
      ¬ (-2 ^ (8 * width - 1) ≤ n.toInt ∧ n.toInt < 2 ^ (8 * width - 1)) := by
  rcases hv with ⟨n, rfl⟩ | ⟨x, rfl⟩
  · -- Only an integer that does not fit into the bytes of the column is refused.
    have hwhole : ∀ width, 0 < width → ((∃ fault, encodeInt width n.toInt = .error fault) ↔
        ¬ (-2 ^ (8 * width - 1) ≤ n.toInt ∧ n.toInt < 2 ^ (8 * width - 1))) := by
      intro width hwidth
      rw [← fits_iff hwidth]
      rcases encodeInt_cases width n.toInt with ⟨hfault, hfits⟩ | ⟨hbytes, hfits⟩
      · exact iff_of_true hfault hfits
      · rw [hbytes]
        exact iff_of_false (by simp) (not_not.2 hfits)
    cases t <;> cases ht
    case inl.int2.refl | inl.int4.refl | inl.int8.refl =>
      refine (hwhole _ (by decide)).trans ⟨fun h => ⟨n, _, rfl, rfl, h⟩, ?_⟩
      rintro ⟨_, _, ⟨⟩, ⟨⟩, h⟩
      exact h
    case inl.float4.refl | inl.float8.refl =>
      refine iff_of_false ?_ (by simp)
      show ¬ ∃ fault, encodeInt 8 n.toInt = .error fault
      rw [(encodeInt_eight n).1]
      simp
  · refine iff_of_false ?_ (by simp)
    cases t <;> cases ht <;> simp [encode, ColumnType.accepted]

/-- **When a number that is sent is the number that arrives.** A whole number arrives in every
    whole-number type and a floating-point number in every floating-point type, in 32 bits as the
    nearest one; apart from that only the zero of 64 empty bits arrives in the other type of eight
    bytes. The only fault is a whole number that its type does not hold. -/
theorem faithful_encode_iff (t : ColumnType) (f : Format) (v : Value) (ht : t.format? = some f)
    (hv : (∃ n, v = .int n) ∨ ∃ x, v = .float x) :
    (Faithful f v (encode t v) ↔
      (∃ n width, v = .int n ∧ f = .whole width) ∨
      (∃ x layout, v = .float x ∧ f = .floating layout) ∨
      (v = .int 0 ∧ f = .floating .double) ∨
      ∃ x, v = .float x ∧ x.toBits = 0 ∧ f = .whole 8) ∧
    ((∃ fault, encode t v = .error fault) ↔ ∃ n width, v = .int n ∧ f = .whole width ∧
      ¬ (-2 ^ (8 * width - 1) ≤ n.toInt ∧ n.toInt < 2 ^ (8 * width - 1))) := by
  refine ⟨?_, exists_encode_eq_error_iff ht hv⟩
  rcases hv with ⟨n, rfl⟩ | ⟨x, rfl⟩
  · rw [faithful_encode_int ht n]
    simp
  · rw [faithful_encode_float ht x]
    simp

/-- A number that 32 bits do not hold arrives as the nearest one that they hold. -/
theorem faithful_encode_tenth :
    ColumnType.float4.format? = some (.floating .single) ∧
      encode .float4 (.float 0.1) = .ok (.bytes [0x3d, 0xcc, 0xcc, 0xcd]) ∧
      Faithful (.floating .single) (.float 0.1) (encode .float4 (.float 0.1)) :=
  ⟨rfl, by rfl, (faithful_encode_iff .float4 (.floating .single) (.float 0.1) rfl
    (.inr ⟨0.1, rfl⟩)).1.2 (.inr (.inl ⟨0.1, .single, rfl, rfl⟩))⟩

/-- A whole number in a column of floating-point numbers arrives as another number: its bits are
    sent as they are. -/
theorem not_faithful_encode_one :
    ColumnType.float8.format? = some (.floating .double) ∧ ColumnType.float8.accepted = true ∧
      encode .float8 (.int 1) = .ok (.bytes [0, 0, 0, 0, 0, 0, 0, 1]) ∧
      ¬ Faithful (.floating .double) (.int 1) (encode .float8 (.int 1)) := by
  refine ⟨rfl, rfl, by rfl, ?_⟩
  rw [faithful_encode_int (t := .float8) rfl]
  rintro (⟨width, hwidth⟩ | ⟨hone, -⟩)
  · exact absurd hwidth Format.noConfusion
  · exact absurd hone (by decide)

end Postgres

end QueryBook
