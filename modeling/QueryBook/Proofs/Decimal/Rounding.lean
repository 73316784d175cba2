import Mathlib.Tactic.GCongr
import QueryBook.Proofs.Decimal.Number

namespace QueryBook.Decimal

/-!
# Rounding to a number of 32 bits

* `Layout.Nearest` — bits whose number is nearest to a size; of two such numbers the one with even
  bits. Infinity takes part as the power of two behind the largest number.
* `Number.RoundsTo` — one number is the nearest of a format to another one.
* `nearest_singleMagnitude` — the computation of the bits of 32-bit numbers finds the nearest ones.
  The numbers from the binade of the result on are multiples of its unit, and all smaller ones are
  further away than the lowest number of the binade.
* `roundsTo_singleBits` — every number of 64 bits rounds to the one whose bits are computed.
-/

/-! ### Rounding a quotient -/

section Quotient

variable {n d : Nat}

/-- How far a whole number is from a quotient. -/
theorem abs_div_sub_natCast (n h : Nat) (hd : 0 < d) :
    |(n / d : ℚ) - h| = |(n : ℚ) - h * d| / d := by
  have hd' : (0 : ℚ) < d := by exact_mod_cast hd
  rw [← abs_of_pos hd', ← abs_div, abs_of_pos hd', sub_div, mul_div_cancel_right₀ _ hd'.ne']

/-- A rounded quotient is half a unit off at most. -/
theorem abs_div_sub_halfEven_le (n : Nat) (hd : 0 < d) :
    |(n / d : ℚ) - halfEven n d| ≤ 1 / 2 := by
  have hd' : (0 : ℚ) < d := by exact_mod_cast hd
  have hhigh : (2 * (halfEven n d * d) : ℚ) ≤ 2 * n + d := by
    exact_mod_cast two_mul_halfEven_le n d
  have hlow : (2 * n : ℚ) ≤ 2 * (halfEven n d * d) + d := by
    exact_mod_cast le_two_mul_halfEven n hd
  rw [abs_div_sub_natCast n _ hd, div_le_iff₀ hd', abs_le]
  constructor <;> linarith

/-- A half is rounded to the even neighbour. -/
theorem halfEven_even_of_abs_eq (hd : 0 < d) (h : |(n / d : ℚ) - halfEven n d| = 1 / 2) :
    halfEven n d % 2 = 0 := by
  have hd' : (0 : ℚ) < d := by exact_mod_cast hd
  rw [abs_div_sub_natCast n _ hd, div_eq_iff hd'.ne'] at h
  -- Half a unit away, in either direction, and without fractions.
  have htie : 2 * n = 2 * (halfEven n d * d) + d ∨ 2 * n + d = 2 * (halfEven n d * d) := by
    rcases abs_eq (by positivity) |>.1 h with h | h
    · left
      have : (2 * n : ℚ) = 2 * (halfEven n d * d) + d := by linarith
      exact_mod_cast this
    · right
      have : (2 * n + d : ℚ) = 2 * (halfEven n d * d) := by linarith
      exact_mod_cast this
  have hdiv := Nat.div_add_mod n d
  have hmod := Nat.mod_lt n hd
  unfold halfEven at htie ⊢
  simp only at htie ⊢
  split at htie
  · next hup =>
    rw [if_pos hup]
    rw [Nat.add_mul, Nat.mul_comm (n / d)] at htie
    omega
  · next hdown =>
    rw [if_neg hdown]
    rw [Nat.mul_comm (n / d)] at htie
    omega

/-- No whole number is nearer to a quotient than the rounded one, and if another one is as near, the
    rounded one is even. -/
theorem halfEven_nearest (n : Nat) (hd : 0 < d) (z : Nat) :
    |(n / d : ℚ) - halfEven n d| ≤ |(n / d : ℚ) - z| ∧
      (|(n / d : ℚ) - z| = |(n / d : ℚ) - halfEven n d| →
        z = halfEven n d ∨ halfEven n d % 2 = 0) := by
  rcases eq_or_ne z (halfEven n d) with rfl | hz
  · exact ⟨le_refl _, fun _ => .inl rfl⟩
  have hhalf := abs_div_sub_halfEven_le n hd
  have hapart : (1 : ℚ) ≤ |(halfEven n d : ℚ) - z| := by
    have : (1 : ℤ) ≤ |(halfEven n d : ℤ) - z| := Int.one_le_abs (by omega)
    exact_mod_cast this
  have hsum : |(halfEven n d : ℚ) - z| ≤
      |(n / d : ℚ) - halfEven n d| + |(n / d : ℚ) - z| := by
    rw [abs_sub_comm (n / d : ℚ) (halfEven n d)]
    exact abs_sub_le _ _ _
  refine ⟨by linarith, fun heq => .inr (halfEven_even_of_abs_eq hd ?_)⟩
  linarith

/-- No whole number that is at most the quotient is above the rounded one. -/
theorem le_halfEven {a : Nat} (hd : 0 < d) (h : a * d ≤ n) : a ≤ halfEven n d := by
  by_contra hlt
  have hmul : (halfEven n d + 1) * d ≤ a * d := Nat.mul_le_mul_right d (by omega)
  have := le_two_mul_halfEven n hd
  rw [Nat.add_mul] at hmul
  omega

/-- No whole number that is at least the quotient is below the rounded one. -/
theorem halfEven_le {a : Nat} (hd : 0 < d) (h : n ≤ a * d) : halfEven n d ≤ a := by
  by_contra hlt
  have hmul : (a + 1) * d ≤ halfEven n d * d := Nat.mul_le_mul_right d (by omega)
  have := two_mul_halfEven_le n d
  rw [Nat.add_mul] at hmul
  omega

end Quotient

/-! ### The numbers of 32 bits -/

namespace Layout

variable {bits : Nat}

/-- The bits of infinity are the same in both ways to write the format. -/
theorem infinity_single : single.infinity = singleInfinity := rfl

/-- Bits put together from a place and up to 25 digits. A carry into the 25th digit is the first
    number of the next binade. -/
theorem magnitude_single_of_digits {place digits : Nat} (hdigits : digits ≤ 2 ^ 24)
    (hlow : place = 0 ∨ 2 ^ 23 ≤ digits) (hbits : place * 2 ^ 23 + digits < 2 ^ 31) :
    single.magnitude (place * 2 ^ 23 + digits) = digits * 2 ^ ((place : ℤ) - 149) := by
  rw [magnitude_single]
  -- Without the leading bit the number is subnormal, and its place is the first one.
  rcases Nat.lt_or_ge digits (2 ^ 23) with hsmall | hlarge
  · obtain rfl : place = 0 := hlow.resolve_right (by omega)
    have hexponent : (0 * 2 ^ 23 + digits) / 2 ^ 23 % 2 ^ 8 = 0 := by omega
    have hfraction : (0 * 2 ^ 23 + digits) % 2 ^ 23 = digits := by omega
    rw [if_pos hexponent, hfraction]
    norm_num
  · -- The digits may have been rounded up to a power of two, which carries into the exponent.
    rcases Nat.lt_or_ge digits (2 ^ 24) with hbelow | hcarry
    · have hexponent : (place * 2 ^ 23 + digits) / 2 ^ 23 % 2 ^ 8 = place + 1 := by omega
      have hfraction : (place * 2 ^ 23 + digits) % 2 ^ 23 = digits - 2 ^ 23 := by omega
      rw [hexponent, hfraction, if_neg (by omega), Nat.cast_sub hlarge]
      have hplace : ((place + 1 : Nat) : ℤ) - 150 = (place : ℤ) - 149 := by omega
      rw [hplace]
      push_cast
      ring
    · obtain rfl : digits = 2 ^ 24 := by omega
      have hexponent : (place * 2 ^ 23 + 2 ^ 24) / 2 ^ 23 % 2 ^ 8 = place + 2 := by omega
      have hfraction : (place * 2 ^ 23 + 2 ^ 24) % 2 ^ 23 = 0 := by omega
      rw [hexponent, hfraction, if_neg (by omega)]
      have hplace : ((place + 2 : Nat) : ℤ) - 150 = 1 + ((place : ℤ) - 149) := by omega
      rw [hplace, zpow_add₀ two_ne_zero]
      push_cast
      ring

/-- The place and the digits of a number. -/
theorem exists_digits (hbits : bits ≤ single.infinity) :
    ∃ place digits : Nat, single.magnitude bits = digits * 2 ^ ((place : ℤ) - 149) ∧
      digits < 2 ^ 24 ∧ (place ≤ 253 ∨ place = 254 ∧ digits = 2 ^ 23) := by
  rw [infinity_single] at hbits
  simp only [singleInfinity, Nat.pow_eq] at hbits
  by_cases hfirst : bits / 2 ^ 23 = 0
  · refine ⟨0, bits, ?_, by omega, by omega⟩
    have hdigits : single.magnitude (0 * 2 ^ 23 + bits) = bits * 2 ^ (((0 : Nat) : ℤ) - 149) :=
      magnitude_single_of_digits (by omega) (.inl rfl) (by omega)
    rwa [Nat.zero_mul, Nat.zero_add] at hdigits
  · refine ⟨bits / 2 ^ 23 - 1, 2 ^ 23 + bits % 2 ^ 23, ?_, by omega, by omega⟩
    have hsum : (bits / 2 ^ 23 - 1) * 2 ^ 23 + (2 ^ 23 + bits % 2 ^ 23) = bits := by omega
    rw [← magnitude_single_of_digits (by omega) (.inr (by omega)) (by omega), hsum]

/-- No number is above the power of two that stands for infinity. -/
theorem magnitude_single_le (hbits : bits ≤ single.infinity) :
    single.magnitude bits ≤ 2 ^ 128 := by
  obtain ⟨place, digits, hmagnitude, hdigits, hplace⟩ := exists_digits hbits
  rw [hmagnitude]
  rcases hplace with hplace | ⟨rfl, rfl⟩
  · have hdigits' : (digits : ℚ) ≤ 2 ^ 24 := by exact_mod_cast hdigits.le
    have hpower : (2 : ℚ) ^ ((place : ℤ) - 149) ≤ 2 ^ (104 : ℤ) :=
      zpow_le_zpow_right₀ one_le_two (by omega)
    calc (digits * 2 ^ ((place : ℤ) - 149) : ℚ)
        ≤ 2 ^ 24 * 2 ^ (104 : ℤ) := mul_le_mul hdigits' hpower (by positivity) (by positivity)
      _ = 2 ^ 128 := by norm_num
  · norm_num

/-- Infinity takes part in rounding as the power of two behind the largest number. -/
theorem magnitude_single_infinity : single.magnitude single.infinity = 2 ^ 128 := by
  have hdigits : single.magnitude (254 * 2 ^ 23 + 2 ^ 23) =
      ((2 ^ 23 : Nat) : ℚ) * 2 ^ (((254 : Nat) : ℤ) - 149) :=
    magnitude_single_of_digits (by norm_num) (.inr (le_refl _)) (by norm_num)
  have hbits : single.infinity = 254 * 2 ^ 23 + 2 ^ 23 := by decide
  rw [hbits, hdigits]
  norm_num

/-- Every number is a multiple of a given unit, or it is below the binade of 24 digits in that
    unit. -/
theorem magnitude_single_cases (hbits : bits ≤ single.infinity) (place : Nat) :
    (∃ z : Nat, single.magnitude bits = z * 2 ^ ((place : ℤ) - 149)) ∨
      0 < place ∧ single.magnitude bits < 2 ^ 23 * 2 ^ ((place : ℤ) - 149) := by
  obtain ⟨place', digits, hmagnitude, hdigits, -⟩ := exists_digits hbits
  rw [hmagnitude]
  -- Numbers of a lower place are smaller; all the others are multiples of the unit.
  rcases Nat.lt_or_ge place' place with hlt | hge
  · refine .inr ⟨by omega, ?_⟩
    have hdigits' : (digits : ℚ) < 2 ^ 24 := by exact_mod_cast hdigits
    calc (digits * 2 ^ ((place' : ℤ) - 149) : ℚ)
        < 2 ^ 24 * 2 ^ ((place' : ℤ) - 149) := by gcongr
      _ = 2 ^ 23 * 2 ^ ((place' : ℤ) + 1 - 149) := by
        rw [show (place' : ℤ) + 1 - 149 = 1 + ((place' : ℤ) - 149) by omega,
          zpow_add₀ two_ne_zero]
        ring
      _ ≤ 2 ^ 23 * 2 ^ ((place : ℤ) - 149) := by
        have : (2 : ℚ) ^ ((place' : ℤ) + 1 - 149) ≤ 2 ^ ((place : ℤ) - 149) :=
          zpow_le_zpow_right₀ one_le_two (by omega)
        gcongr
  · refine .inl ⟨digits * 2 ^ (place' - place), ?_⟩
    rw [show (place' : ℤ) - 149 = ((place' - place : Nat) : ℤ) + ((place : ℤ) - 149) by omega,
      zpow_add₀ two_ne_zero, zpow_natCast]
    push_cast
    ring

end Layout

/-! ### The nearest number -/

/-- The bits stand for the number nearest to a size, and if another number is as near, the bits are
    even. Infinity takes part as the power of two behind the largest number. -/
structure Layout.Nearest (l : Layout) (size : ℚ) (bits : Nat) : Prop where
  le : bits ≤ l.infinity
  nearest : ∀ other ≤ l.infinity, |size - l.magnitude bits| ≤ |size - l.magnitude other|
  even : ∀ other ≤ l.infinity, |size - l.magnitude other| = |size - l.magnitude bits| →
    l.magnitude other = l.magnitude bits ∨ bits % 2 = 0

/-- A number as a quotient of whole numbers in another unit. -/
theorem div_mul_zpow (m : Nat) (q unit : ℤ) :
    ((m * 2 ^ (q - unit).toNat : Nat) / (2 ^ (unit - q).toNat : Nat) : ℚ) * 2 ^ unit =
      m * 2 ^ q := by
  push_cast
  rcases le_total unit q with h | h
  · rw [show (unit - q).toNat = 0 by omega, pow_zero, div_one, mul_assoc, ← zpow_natCast,
      ← zpow_add₀ two_ne_zero, show ((q - unit).toNat : ℤ) + unit = q by omega]
  · rw [show (q - unit).toNat = 0 by omega, pow_zero, mul_one, div_mul_eq_mul_div,
      show unit = q + ((unit - q).toNat : ℤ) by omega, zpow_add₀ two_ne_zero, zpow_natCast]
    rw [show (q + ((unit - q).toNat : ℤ) - q).toNat = (unit - q).toNat by omega]
    field_simp

/-- The bits are put together from a place and a rounded quotient of 24 digits, or of fewer in the
    last place. -/
theorem exists_singleMagnitude_eq {m : Nat} (hm : m ≠ 0) (q : ℤ) :
    ∃ place n d : Nat, 0 < d ∧ (m * 2 ^ q : ℚ) = n / d * 2 ^ ((place : ℤ) - 149) ∧
      n ≤ 2 ^ 24 * d ∧ (place = 0 ∨ 2 ^ 23 * d ≤ n) ∧
      singleMagnitude m q = min (place * 2 ^ 23 + halfEven n d) singleInfinity := by
  let unit : ℤ := max (q + (m.log2 + 1 : Nat) - 24) (-149)
  have hunit : ((unit + 149).toNat : ℤ) - 149 = unit := by omega
  have hlow : 2 ^ m.log2 ≤ m := Nat.log2_self_le hm
  have hhigh : m < 2 ^ (m.log2 + 1) := Nat.lt_log2_self
  refine ⟨(unit + 149).toNat, m * 2 ^ (q - unit).toNat, 2 ^ (unit - q).toNat, by positivity, ?_,
    ?_, ?_, ?_⟩
  · rw [hunit, div_mul_zpow]
  · calc m * 2 ^ (q - unit).toNat
        ≤ 2 ^ (m.log2 + 1) * 2 ^ (q - unit).toNat := Nat.mul_le_mul_right _ hhigh.le
      _ = 2 ^ (m.log2 + 1 + (q - unit).toNat) := (pow_add ..).symm
      _ ≤ 2 ^ (24 + (unit - q).toNat) := Nat.pow_le_pow_right two_pos (by omega)
      _ = 2 ^ 24 * 2 ^ (unit - q).toNat := pow_add ..
  · -- The unit is the least one of all, or the one that leaves twenty-four bits.
    rcases eq_or_ne unit (-149) with hlast | hfirst
    · exact .inl (by omega)
    · right
      calc 2 ^ 23 * 2 ^ (unit - q).toNat
          = 2 ^ (23 + (unit - q).toNat) := (pow_add ..).symm
        _ ≤ 2 ^ (m.log2 + (q - unit).toNat) := Nat.pow_le_pow_right two_pos (by omega)
        _ = 2 ^ m.log2 * 2 ^ (q - unit).toNat := pow_add ..
        _ ≤ m * 2 ^ (q - unit).toNat := Nat.mul_le_mul_right _ hlow
  · rw [singleMagnitude, if_neg hm]
    rfl

/-- Distances in a unit. -/
theorem abs_mul_sub_mul {unit : ℚ} (hunit : 0 < unit) (s t : ℚ) :
    |s * unit - t * unit| = |s - t| * unit := by
  rw [← sub_mul, abs_mul, abs_of_pos hunit]

/-- No number is nearer to a quotient in some unit than the rounded quotient, and if another one is
    as near, the rounded quotient is even. -/
theorem abs_sub_digits_le {place n d other : Nat} {size : ℚ} (hd : 0 < d)
    (hsize : size = n / d * 2 ^ ((place : ℤ) - 149)) (hplace : place = 0 ∨ 2 ^ 23 * d ≤ n)
    (hother : other ≤ Layout.single.infinity) :
    |size - halfEven n d * 2 ^ ((place : ℤ) - 149)| ≤ |size - Layout.single.magnitude other| ∧
      (|size - Layout.single.magnitude other| = |size - halfEven n d * 2 ^ ((place : ℤ) - 149)| →
        Layout.single.magnitude other = halfEven n d * 2 ^ ((place : ℤ) - 149) ∨
          halfEven n d % 2 = 0) := by
  have hcases := Layout.magnitude_single_cases hother place
  have hunit : (0 : ℚ) < 2 ^ ((place : ℤ) - 149) := by positivity
  generalize (2 : ℚ) ^ ((place : ℤ) - 149) = unit at hcases hsize hunit ⊢
  rw [hsize, abs_mul_sub_mul hunit]
  rcases hcases with ⟨z, hz⟩ | ⟨hpos, hbelow⟩
  · rw [hz, abs_mul_sub_mul hunit]
    obtain ⟨hnear, heven⟩ := halfEven_nearest n hd z
    refine ⟨mul_le_mul_of_nonneg_right hnear hunit.le, fun heq => ?_⟩
    exact (heven (mul_right_cancel₀ hunit.ne' heq)).imp_left fun hz => by rw [hz]
  · -- Such a number is further away than the lowest number of the binade.
    have hfirst : (2 ^ 23 : ℚ) ≤ n / d := by
      rw [le_div_iff₀ (by exact_mod_cast hd)]
      exact_mod_cast hplace.resolve_left hpos.ne'
    have hnear := (halfEven_nearest n hd (2 ^ 23)).1
    rw [Nat.cast_pow, Nat.cast_ofNat] at hnear
    have hlt : |(n / d : ℚ) - halfEven n d| * unit <
        |n / d * unit - Layout.single.magnitude other| := by
      calc |(n / d : ℚ) - halfEven n d| * unit
          ≤ |(n / d : ℚ) - 2 ^ 23| * unit := mul_le_mul_of_nonneg_right hnear hunit.le
        _ = n / d * unit - 2 ^ 23 * unit := by rw [abs_of_nonneg (by linarith), sub_mul]
        _ < n / d * unit - Layout.single.magnitude other := by linarith
        _ ≤ |n / d * unit - Layout.single.magnitude other| := le_abs_self _
    exact ⟨hlt.le, fun heq => absurd heq hlt.ne'⟩

/-- The rounded quotient is the nearest number, as long as it is not above infinity. -/
theorem nearest_of_digits {place n d : Nat} {size : ℚ} (hd : 0 < d)
    (hsize : size = n / d * 2 ^ ((place : ℤ) - 149)) (hn : n ≤ 2 ^ 24 * d)
    (hplace : place = 0 ∨ 2 ^ 23 * d ≤ n)
    (hbits : place * 2 ^ 23 + halfEven n d ≤ Layout.single.infinity) :
    Layout.single.Nearest size (place * 2 ^ 23 + halfEven n d) := by
  have hmagnitude : Layout.single.magnitude (place * 2 ^ 23 + halfEven n d) =
      halfEven n d * 2 ^ ((place : ℤ) - 149) := by
    refine Layout.magnitude_single_of_digits (halfEven_le hd hn)
      (hplace.imp_right fun h => le_halfEven hd h) (hbits.trans_lt ?_)
    decide
  refine ⟨hbits, fun other hle => ?_, fun other hle heq => ?_⟩
  · rw [hmagnitude]
    exact (abs_sub_digits_le hd hsize hplace hle).1
  · rw [hmagnitude] at heq ⊢
    exact ((abs_sub_digits_le hd hsize hplace hle).2 heq).imp_right fun h => by omega

/-- From the power of two behind the largest number on, infinity is the nearest. -/
theorem nearest_infinity {size : ℚ} (h : 2 ^ 128 ≤ size) :
    Layout.single.Nearest size Layout.single.infinity := by
  refine ⟨le_refl _, fun other hle => ?_, fun other hle heq => .inl ?_⟩
  all_goals
    have hother := Layout.magnitude_single_le hle
    rw [Layout.magnitude_single_infinity, abs_of_nonneg (by linarith)] at *
  · exact (sub_le_sub_left hother size).trans (le_abs_self _)
  · rw [abs_of_nonneg (by linarith)] at heq
    linarith

/-- **Rounding to 32 bits finds the nearest number.** -/
theorem nearest_singleMagnitude (m : Nat) (q : ℤ) :
    Layout.single.Nearest (m * 2 ^ q) (singleMagnitude m q) := by
  rcases eq_or_ne m 0 with rfl | hm
  · have hzero : Layout.single.magnitude 0 = 0 := by
      rw [Layout.magnitude_single]
      norm_num
    rw [singleMagnitude, if_pos rfl, Nat.cast_zero, zero_mul]
    refine ⟨Nat.zero_le _, fun other _ => ?_, fun other _ _ => .inr rfl⟩
    rw [hzero, sub_zero, abs_zero]
    exact abs_nonneg _
  obtain ⟨place, n, d, hd, hsize, hn, hplace, hbits⟩ := exists_singleMagnitude_eq hm q
  rw [hbits, ← Layout.infinity_single]
  -- What is rounded goes beyond the finite numbers, or it is one of them.
  rcases Nat.lt_or_ge Layout.single.infinity (place * 2 ^ 23 + halfEven n d) with hgt | hle
  · rw [Nat.min_eq_right hgt.le]
    refine nearest_infinity ?_
    have hdigits : halfEven n d ≤ 2 ^ 24 := halfEven_le hd hn
    have hinfinity : Layout.single.infinity = 255 * 2 ^ 23 := rfl
    have hfirst : (2 ^ 23 : ℚ) ≤ n / d := by
      rw [le_div_iff₀ (by exact_mod_cast hd)]
      exact_mod_cast hplace.resolve_left (by omega)
    have hunit : (2 : ℚ) ^ (105 : ℤ) ≤ 2 ^ ((place : ℤ) - 149) :=
      zpow_le_zpow_right₀ one_le_two (by omega)
    calc (2 ^ 128 : ℚ) = 2 ^ 23 * 2 ^ (105 : ℤ) := by norm_num
      _ ≤ n / d * 2 ^ ((place : ℤ) - 149) :=
        mul_le_mul hfirst hunit (by positivity) (by positivity)
      _ = m * 2 ^ q := hsize.symm
  · rw [Nat.min_eq_left hle]
    exact nearest_of_digits hd hsize hn hplace hle

/-! ### Rounding of numbers -/

/-- A number is the nearest of a format to another one. What is no finite number stays what it is;
    the sign stays in any case. -/
inductive Number.RoundsTo (l : Layout) : Number → Number → Prop
  | nan : RoundsTo l .nan .nan
  | infinite (negative : Bool) : RoundsTo l (.infinite negative) (.infinite negative)
  | finite (negative : Bool) {size : ℚ} {bits : Nat} (h : l.Nearest size bits) :
    RoundsTo l (.finite negative size)
      (.ofBits l ((if negative then 2 ^ (l.exponentBits + l.fractionBits) else 0) + bits))

/-- No number is rounded beyond infinity. -/
theorem singleMagnitude_le (m : Nat) (q : ℤ) : singleMagnitude m q ≤ singleInfinity :=
  (nearest_singleMagnitude m q).le

/-- The bits fit. -/
theorem singleBits_lt (x : Float) : singleBits x < 2 ^ 32 := by
  have hinfinity : singleInfinity = 255 * 2 ^ 23 := rfl
  unfold singleBits
  cases Binary.ofFloat x with
  | nan => decide
  | infinite negative => cases negative <;> decide
  | finite negative m q =>
    have := singleMagnitude_le m q
    cases negative <;> simp only [Nat.pow_eq, Bool.false_eq_true, if_true, if_false] <;> omega

/-- The bits of what is no finite number. -/
theorem ofBits_single_nan : Number.ofBits .single (singleInfinity + Nat.pow 2 22) = .nan := by
  rw [Number.ofBits_single, if_pos (by decide), if_neg (by decide)]

/-- The bits of infinity stand for it, with either sign. -/
theorem ofBits_single_infinite (negative : Bool) :
    Number.ofBits .single (if negative then Nat.pow 2 31 + singleInfinity else singleInfinity) =
      .infinite negative := by
  cases negative
  · rw [Number.ofBits_single, if_pos (by decide), if_pos (by decide)]
    rfl
  · rw [Number.ofBits_single, if_pos (by decide), if_pos (by decide)]
    rfl

/-- **Every number of 64 bits is rounded to the nearest one of 32 bits.** -/
theorem roundsTo_singleBits (x : Float) :
    (Number.ofBits .double x.toBits.toNat).RoundsTo .single (.ofBits .single (singleBits x)) := by
  rw [← number_ofFloat]
  unfold singleBits
  cases Binary.ofFloat x with
  | nan =>
    simp only [ofBits_single_nan]
    exact .nan
  | infinite negative =>
    simp only [ofBits_single_infinite]
    exact .infinite negative
  | finite negative m q =>
    have hround := Number.RoundsTo.finite negative (nearest_singleMagnitude m q)
    -- The sign is the first bit, so it adds a power of two to the bits of the magnitude.
    cases negative
    · rw [if_neg Bool.false_ne_true, Nat.zero_add] at hround
      simpa only [Bool.false_eq_true, if_false, Binary.number] using hround
    · have hsign : 2 ^ (Layout.single.exponentBits + Layout.single.fractionBits) =
          Nat.pow 2 31 := by
        decide
      rw [if_pos rfl, hsign] at hround
      simpa only [if_true, Binary.number] using hround

end QueryBook.Decimal
