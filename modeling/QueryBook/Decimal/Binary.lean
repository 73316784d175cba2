namespace QueryBook.Decimal

/-!
# Numbers in binary form

A floating-point number is a sign, a whole number `m` and a power of two: it stands for `m · 2 ^ q`.

* `Binary.ofFloat` — the parts of a number.
* `Interval`, `roundingInterval` — the numbers that round to it, as multiples of one unit.
-/

/-- What a floating-point number stands for. -/
inductive Binary where
  | nan
  | infinite (negative : Bool)
  /-- The number `m · 2 ^ q`, below zero if so marked; a zero has a sign too. -/
  | finite (negative : Bool) (m : Nat) (q : Int)
deriving DecidableEq, Repr

/-- The parts of a number of 64 bits: 11 bits of exponent and 52 of fraction follow the sign. -/
def Binary.ofFloat (x : Float) : Binary :=
  let bits := x.toBits.toNat
  let negative := bits / Nat.pow 2 63 == 1
  let exponent : Nat := bits / Nat.pow 2 52 % Nat.pow 2 11
  let fraction : Nat := bits % Nat.pow 2 52
  if exponent = 2047 then
    if fraction = 0 then .infinite negative else .nan
  else if exponent = 0 then .finite negative fraction (-1074)
  else .finite negative (Nat.pow 2 52 + fraction) ((exponent : Int) - 1075)

/-- A range of fractions with one denominator. The ends belong to it or not. -/
structure Interval where
  low : Nat
  value : Nat
  high : Nat
  denominator : Nat
  closed : Bool

/-- The numbers that round to `m · 2 ^ q`: half way to the next number on either side. Below a power
    of two the next number is half as far. The ends round to an even `m`. -/
def roundingInterval (m : Nat) (q : Int) : Interval :=
  let low := if m = Nat.pow 2 52 ∧ -1074 < q then 4 * m - 1 else 4 * m - 2
  let scale := Nat.pow 2 (q - 2).toNat
  ⟨low * scale, 4 * m * scale, (4 * m + 2) * scale, Nat.pow 2 (2 - q).toNat, m % 2 = 0⟩

/-- Whether the fraction with the numerator `n` and the interval's denominator lies in it. -/
def Interval.holds (i : Interval) (n : Nat) : Bool :=
  if i.closed then i.low ≤ n && n ≤ i.high else i.low < n && n < i.high

end QueryBook.Decimal
