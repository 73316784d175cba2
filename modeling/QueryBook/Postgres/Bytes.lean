namespace QueryBook.Postgres

/-!
# Numbers as bytes

* `capacity` — how many numbers a row of bytes can stand for.
* `bigEndian`, `ofBigEndian` — a number as bytes, the most significant one first, and back.
* `twosComplement`, `ofTwosComplement` — a number with a sign as one without, and back.

Main statements: what was written is read back (`ofBigEndian_bigEndian`), and so is every number
with a sign that fits (`ofTwosComplement_twosComplement`).
-/

/-- How many numbers there are in `width` bytes. -/
def capacity : Nat → Nat
  | 0 => 1
  | width + 1 => capacity width * 256

/-- Bytes of any number have a value. -/
theorem capacity_pos (width : Nat) : 0 < capacity width := by
  induction width with
  | zero => decide
  | succ width ih => exact Nat.mul_pos ih (by decide)

/-- The lowest `width` bytes of a number, the most significant one first. -/
def bigEndian : Nat → Nat → List UInt8
  | 0, _ => []
  | width + 1, n => UInt8.ofNat (n / capacity width) :: bigEndian width n

/-- The number that bytes stand for, the most significant one first. -/
def ofBigEndian : List UInt8 → Nat
  | [] => 0
  | b :: bs => b.toNat * capacity bs.length + ofBigEndian bs

/-- A number is written in as many bytes as the width says. -/
@[simp] theorem length_bigEndian (width n : Nat) : (bigEndian width n).length = width := by
  induction width with
  | zero => rfl
  | succ width ih => simp [bigEndian, ih]

/-- The bytes of a number stand for it, as far as they reach. -/
theorem ofBigEndian_bigEndian (width n : Nat) :
    ofBigEndian (bigEndian width n) = n % capacity width := by
  induction width with
  | zero => simp [bigEndian, ofBigEndian, capacity, Nat.mod_one]
  | succ width ih =>
    have h : (UInt8.ofNat (n / capacity width)).toNat = n / capacity width % 256 :=
      UInt8.toNat_ofNat'
    rw [bigEndian, ofBigEndian, length_bigEndian, ih, h, capacity, Nat.mod_mul]
    rw [Nat.mul_comm, Nat.add_comm]

/-- The number without a sign that stands for a number in `width` bytes. -/
def twosComplement (width : Nat) (n : Int) : Nat := (n % (capacity width : Int)).toNat

/-- The number with a sign that a number in `width` bytes stands for. -/
def ofTwosComplement (width n : Nat) : Int :=
  if 2 * n < capacity width then n else (n : Int) - (capacity width : Int)

/-- A number with a sign that fits is read back. -/
theorem ofTwosComplement_twosComplement {width : Nat} {n : Int}
    (low : -(capacity width : Int) ≤ 2 * n) (high : 2 * n < (capacity width : Int)) :
    ofTwosComplement width (twosComplement width n) = n := by
  unfold ofTwosComplement twosComplement
  generalize capacity width = d at *
  rcases Int.lt_or_le n 0 with h | h
  · have hn : n % (d : Int) = n + d := by
      rw [← Int.add_emod_right n d]
      exact Int.emod_eq_of_lt (by omega) (by omega)
    rw [hn]
    split <;> omega
  · have hn : n % (d : Int) = n := Int.emod_eq_of_lt h (by omega)
    rw [hn]
    split <;> omega

end QueryBook.Postgres
