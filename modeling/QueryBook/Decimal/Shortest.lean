import QueryBook.Decimal.Binary

namespace QueryBook.Decimal

/-!
# The fewest digits that read back

The shortest decimal that rounds to a given floating-point number, and the nearest one of that
length.

* `Scaled` — a decimal, digits times a power of ten.
* `shortest` — the search: for one digit, two digits and so on, the two neighbours of the number on
  the grid of that many digits are tried.
-/

/-- The number `digits · 10 ^ exponent`. -/
structure Scaled where
  digits : Nat
  exponent : Int
deriving DecidableEq, Repr

/-- Which of two neighbours is taken when a number lies half way between them. -/
inductive Tie where
  | toEven
  | up
deriving DecidableEq, Repr

/-- The same interval in units of `10 ^ e`. -/
def Interval.scale (i : Interval) (e : Int) : Interval :=
  let f := Nat.pow 10 (-e).toNat
  ⟨i.low * f, i.value * f, i.high * f, i.denominator * Nat.pow 10 e.toNat, i.closed⟩

/-- The point of the grid of whole numbers that rounds to the value, if there is one: of two such
    neighbours the nearer. -/
def Interval.gridPoint? (i : Interval) (tie : Tie) : Option Nat :=
  let k := i.value / i.denominator
  let below := k * i.denominator
  let above := (k + 1) * i.denominator
  match i.holds below, i.holds above with
  | false, false => none
  | true, false => some k
  | false, true => some (k + 1)
  | true, true =>
    match compare (i.value - below) (above - i.value) with
    | .lt => some k
    | .gt => some (k + 1)
    | .eq => if tie = .toEven ∧ k % 2 = 0 then some k else some (k + 1)

/-- The place of the leading digit of a positive fraction. -/
def Interval.magnitude (i : Interval) : Int :=
  if i.denominator ≤ i.value then (Nat.toDigits 10 (i.value / i.denominator)).length - 1
  else -(Nat.toDigits 10 (i.denominator / i.value)).length

/-- Grids of finer and finer units, beginning with `10 ^ e`; seventeen digits are always enough. -/
def searchGrid (i : Interval) (tie : Tie) : Nat → Int → Scaled
  | 0, e => ⟨i.value / i.denominator, e⟩
  | fuel + 1, e =>
    match (i.scale e).gridPoint? tie with
    | some k => ⟨k, e⟩
    -- No point of this grid rounds to the value: one more digit.
    | none => searchGrid i tie fuel (e - 1)

/-- The decimal without zeros at its end. -/
def dropZeros : Nat → Scaled → Scaled
  | 0, d => d
  | fuel + 1, d => if d.digits % 10 = 0 then dropZeros fuel ⟨d.digits / 10, d.exponent + 1⟩ else d

/-- The shortest decimal that rounds to `m · 2 ^ q`. -/
def shortest (tie : Tie) (m : Nat) (q : Int) : Scaled :=
  if m = 0 then ⟨0, 0⟩
  else
    let i := roundingInterval m q
    dropZeros 20 (searchGrid i tie 18 i.magnitude)

end QueryBook.Decimal
