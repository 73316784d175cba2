import Mathlib.Data.List.Basic

namespace QueryBook.Decimal

/-!
# Numerals

What it means that digits are the numeral of a number, said by reading them back.

* `Denotes` — digits without a zero in front that are read as a number.
* `toDigits_append` — digits behind the numeral of a number make up the numeral of a larger one.
* `denotes_iff` — the digits that are computed for a number are its numeral, and there is no other.
-/

/-- The digits are the numeral of a number that is not zero. -/
structure Denotes (digits : List Char) (n : Nat) : Prop where
  isDigit : ∀ c ∈ digits, c.isDigit = true
  /-- No zero is in front. -/
  head_ne : digits.head? ≠ some '0'
  /-- The digits are read from left to right. -/
  value : Nat.ofDigitChars 10 digits 0 = n

/-- A digit is the one that is written for its value. -/
theorem digitChar_of_isDigit {c : Char} (h : c.isDigit = true) :
    c.toNat - '0'.toNat < 10 ∧ Nat.digitChar (c.toNat - '0'.toNat) = c := by
  have hrange : 48 ≤ c.toNat ∧ c.toNat ≤ 57 := by
    simpa [Char.isDigit, UInt32.le_iff_toNat_le] using h
  have hlt : c.toNat - '0'.toNat < 10 := by
    show c.toNat - 48 < 10
    omega
  refine ⟨hlt, ?_⟩
  rw [← Char.toNat_inj, Nat.toNat_digitChar_of_lt_ten hlt]
  show 48 + (c.toNat - 48) = c.toNat
  omega

/-- Digits behind a numeral go on with it. -/
theorem toDigits_append {cs : List Char} (hcs : ∀ c ∈ cs, c.isDigit = true) {n : Nat}
    (hn : 0 < n) : Nat.toDigits 10 n ++ cs = Nat.toDigits 10 (Nat.ofDigitChars 10 cs n) := by
  induction cs generalizing n with
  | nil => rw [List.append_nil, Nat.ofDigitChars_nil]
  | cons c cs ih =>
    obtain ⟨hlt, hc⟩ := digitChar_of_isDigit (hcs c List.mem_cons_self)
    have hstep : Nat.toDigits 10 n ++ [c] = Nat.toDigits 10 (10 * n + (c.toNat - '0'.toNat)) := by
      rw [← Nat.toDigits_append_toDigits (by decide) hn hlt, Nat.toDigits_of_lt_base hlt, hc]
    calc Nat.toDigits 10 n ++ c :: cs
        = Nat.toDigits 10 n ++ [c] ++ cs := by rw [List.append_assoc, List.singleton_append]
      _ = Nat.toDigits 10 (10 * n + (c.toNat - '0'.toNat)) ++ cs := by rw [hstep]
      _ = Nat.toDigits 10 (Nat.ofDigitChars 10 (c :: cs) n) := by
          rw [ih (fun d hd => hcs d (List.mem_cons_of_mem c hd)) (by omega), Nat.ofDigitChars_cons]

/-- The digits of a number other than zero do not begin with a zero. -/
theorem head?_toDigits {n : Nat} (hn : 0 < n) : (Nat.toDigits 10 n).head? ≠ some '0' := by
  induction n using Nat.strongRecOn with
  | ind n ih =>
    by_cases hsmall : n < 10
    · have hdigits : ∀ d : Fin 10, 0 < d.val → Nat.digitChar d.val ≠ '0' := by decide
      rw [Nat.toDigits_of_lt_base hsmall]
      simpa using hdigits ⟨n, hsmall⟩ hn
    · rw [Nat.toDigits_of_base_le (by decide) (Nat.le_of_not_lt hsmall),
        List.head?_append_of_ne_nil _ Nat.toDigits_ne_nil]
      exact ih (n / 10) (by omega) (by omega)

/-- **A number has one numeral**, and it is the one that is computed. -/
theorem denotes_iff {digits : List Char} {n : Nat} (hn : 0 < n) :
    Denotes digits n ↔ digits = Nat.toDigits 10 n := by
  constructor
  · rintro ⟨hdigits, hhead, rfl⟩
    cases digits with
    | nil => exact absurd hn (Nat.lt_irrefl 0)
    | cons c cs =>
      obtain ⟨hlt, hc⟩ := digitChar_of_isDigit (hdigits c List.mem_cons_self)
      have hpos : 0 < c.toNat - '0'.toNat := by
        by_contra hzero
        rw [Nat.eq_zero_of_not_pos hzero] at hc
        exact hhead (congrArg some hc.symm)
      -- The first digit is a numeral, which the others go on with.
      rw [← List.singleton_append, ← hc, ← Nat.toDigits_of_lt_base hlt,
        toDigits_append (fun d hd => hdigits d (List.mem_cons_of_mem c hd)) hpos]
      simp
  · rintro rfl
    exact ⟨fun c hc => Nat.isDigit_of_mem_toDigits (by decide) (by decide) hc, head?_toDigits hn,
      Nat.ofDigitChars_ten_toDigits⟩

end QueryBook.Decimal
