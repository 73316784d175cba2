import Mathlib.Algebra.Order.Field.Power
import Mathlib.Algebra.Order.Ring.Abs
import Mathlib.Data.Rat.Cast.Order
import Mathlib.Tactic.FieldSimp
import Mathlib.Tactic.Linarith
import Mathlib.Tactic.NormNum
import Mathlib.Tactic.Positivity
import Mathlib.Tactic.Ring
import QueryBook.Decimal.Single

namespace QueryBook.Decimal

/-!
# What bits stand for

* `Layout`, `Layout.magnitude` — a binary floating-point format, and the size of the number that
  bits of it stand for.
* `Number`, `Number.ofInt`, `Number.ofBits` — what a whole number and what bits stand for; a zero
  has a sign too.
* `number_ofFloat` — the parts of a number of 64 bits make up the number that its bits stand for.
-/

/-- A floating-point format: behind the sign bit stand an exponent and a fraction. -/
structure Layout where
  exponentBits : Nat
  fractionBits : Nat
deriving DecidableEq, Repr

namespace Layout

/-- The format of 32 bits. -/
def single : Layout := ⟨8, 23⟩

/-- The format of 64 bits. -/
def double : Layout := ⟨11, 52⟩

variable (l : Layout) (bits : Nat)

/-- How many bytes there are. -/
def width : Nat := (1 + l.exponentBits + l.fractionBits) / 8

def exponent : Nat := bits / 2 ^ l.fractionBits % 2 ^ l.exponentBits

def fraction : Nat := bits % 2 ^ l.fractionBits

/-- The place of the last binary digit of the smallest numbers. -/
def lowest : ℤ := 2 - 2 ^ (l.exponentBits - 1) - l.fractionBits

/-- The bits of infinity, without the sign. -/
def infinity : Nat := (2 ^ l.exponentBits - 1) * 2 ^ l.fractionBits

/-- The size of the number that bits stand for. The bits of infinity get the power of two that comes
    behind the largest number. -/
def magnitude : ℚ :=
  if l.exponent bits = 0 then l.fraction bits * 2 ^ l.lowest
  else (2 ^ l.fractionBits + l.fraction bits) * 2 ^ ((l.exponent bits : ℤ) - 1 + l.lowest)

/-- The size of a number of 32 bits. -/
theorem magnitude_single : single.magnitude bits =
    if bits / 2 ^ 23 % 2 ^ 8 = 0 then ((bits % 2 ^ 23 : Nat) : ℚ) * 2 ^ (-149 : ℤ)
    else (2 ^ 23 + ((bits % 2 ^ 23 : Nat) : ℚ)) *
      2 ^ (((bits / 2 ^ 23 % 2 ^ 8 : Nat) : ℤ) - 150) := by
  have hplace : ((bits / 2 ^ 23 % 2 ^ 8 : Nat) : ℤ) - 1 + single.lowest =
      ((bits / 2 ^ 23 % 2 ^ 8 : Nat) : ℤ) - 150 := by
    have : single.lowest = -149 := by decide
    omega
  rw [← hplace]
  rfl

/-- The size of a number of 64 bits. -/
theorem magnitude_double : double.magnitude bits =
    if bits / 2 ^ 52 % 2 ^ 11 = 0 then ((bits % 2 ^ 52 : Nat) : ℚ) * 2 ^ (-1074 : ℤ)
    else (2 ^ 52 + ((bits % 2 ^ 52 : Nat) : ℚ)) *
      2 ^ (((bits / 2 ^ 52 % 2 ^ 11 : Nat) : ℤ) - 1075) := by
  have hplace : ((bits / 2 ^ 52 % 2 ^ 11 : Nat) : ℤ) - 1 + double.lowest =
      ((bits / 2 ^ 52 % 2 ^ 11 : Nat) : ℤ) - 1075 := by
    have : double.lowest = -1074 := by decide
    omega
  rw [← hplace]
  rfl

end Layout

/-- What a number in memory or on the wire stands for. -/
inductive Number where
  | nan
  | infinite (negative : Bool)
  | finite (negative : Bool) (magnitude : ℚ)

namespace Number

/-- A whole number. -/
def ofInt (n : ℤ) : Number := .finite (decide (n < 0)) n.natAbs

/-- The number that bits stand for. -/
def ofBits (l : Layout) (bits : Nat) : Number :=
  let negative := bits / 2 ^ (l.exponentBits + l.fractionBits) % 2 == 1
  if l.exponent bits = 2 ^ l.exponentBits - 1 then
    if l.fraction bits = 0 then .infinite negative else .nan
  else .finite negative (l.magnitude bits)

/-- The number of 32 bits. -/
theorem ofBits_single (bits : Nat) : ofBits .single bits =
    if bits / 2 ^ 23 % 2 ^ 8 = 255 then
      if bits % 2 ^ 23 = 0 then .infinite (bits / 2 ^ 31 % 2 == 1) else .nan
    else .finite (bits / 2 ^ 31 % 2 == 1) (Layout.single.magnitude bits) := rfl

/-- The number of 64 bits. -/
theorem ofBits_double (bits : Nat) : ofBits .double bits =
    if bits / 2 ^ 52 % 2 ^ 11 = 2047 then
      if bits % 2 ^ 52 = 0 then .infinite (bits / 2 ^ 63 % 2 == 1) else .nan
    else .finite (bits / 2 ^ 63 % 2 == 1) (Layout.double.magnitude bits) := rfl

end Number

/-- The number that its parts make up. -/
def Binary.number : Binary → Number
  | nan => .nan
  | infinite negative => .infinite negative
  | finite negative m q => .finite negative (m * 2 ^ q)

/-- The parts of a number are read from its bits. -/
theorem number_ofFloat (x : Float) :
    (Binary.ofFloat x).number = Number.ofBits .double x.toBits.toNat := by
  have hbits : x.toBits.toNat < 2 ^ 64 := UInt64.toNat_lt x.toBits
  unfold Binary.ofFloat
  generalize x.toBits.toNat = bits at hbits
  have hsign : (bits / 2 ^ 63 == 1) = (bits / 2 ^ 63 % 2 == 1) := by
    rw [Nat.mod_eq_of_lt (by omega)]
  simp only [Nat.pow_eq, hsign]
  rw [Number.ofBits_double, Layout.magnitude_double]
  split
  · split <;> rfl
  · split
    · rfl
    · simp only [Binary.number, Nat.cast_add, Nat.cast_pow, Nat.cast_ofNat]

end QueryBook.Decimal
