import QueryBook.Decimal.Binary

namespace QueryBook.Decimal

/-!
# Numbers of 32 bits

* `halfEven` — a quotient, rounded to the nearest whole number; a half goes to the even one.
* `singleMagnitude`, `singleBits` — the nearest number of 32 bits, as its bits.

Main statement: a rounded quotient is half a unit off at most (`two_mul_halfEven_le`,
`le_two_mul_halfEven`).
-/

/-- The whole number nearest to `n / d`; a half goes to the even neighbour. -/
def halfEven (n d : Nat) : Nat :=
  let low := n / d
  let twice := 2 * (n % d)
  if d < twice ∨ (d = twice ∧ low % 2 = 1) then low + 1 else low

/-- A rounded quotient is at most half above the quotient. -/
theorem two_mul_halfEven_le (n d : Nat) : 2 * (halfEven n d * d) ≤ 2 * n + d := by
  have h := Nat.div_add_mod n d
  have hc : n / d * d = d * (n / d) := Nat.mul_comm ..
  unfold halfEven
  simp only
  split
  · rw [Nat.add_mul, hc]; omega
  · rw [hc]; omega

/-- A rounded quotient is at most half below the quotient. -/
theorem le_two_mul_halfEven (n : Nat) {d : Nat} (hd : 0 < d) :
    2 * n ≤ 2 * (halfEven n d * d) + d := by
  have h := Nat.div_add_mod n d
  have hm := Nat.mod_lt n hd
  have hc : n / d * d = d * (n / d) := Nat.mul_comm ..
  unfold halfEven
  simp only
  split
  · rw [Nat.add_mul, hc]; omega
  · rw [hc]; omega

/-- The bits of an infinite number, without the sign. -/
def singleInfinity : Nat := 255 * Nat.pow 2 23

/-- The bits of the number nearest to `m · 2 ^ q`, without the sign. Numbers have 24 binary digits,
    and none behind the 149th binary place; each binade continues the bits of the one below, so that
    a carry needs no care. -/
def singleMagnitude (m : Nat) (q : Int) : Nat :=
  if m = 0 then 0
  else
    -- The place of the last of 24 digits, or of the last place that there is.
    let unit := max (q + (m.log2 + 1 : Nat) - 24) (-149)
    let digits := halfEven (m * Nat.pow 2 (q - unit).toNat) (Nat.pow 2 (unit - q).toNat)
    min ((unit + 149).toNat * Nat.pow 2 23 + digits) singleInfinity

/-- The bits of the number of 32 bits nearest to a number. -/
def singleBits (x : Float) : Nat :=
  let signed (negative : Bool) (n : Nat) : Nat := if negative then Nat.pow 2 31 + n else n
  match Binary.ofFloat x with
  | .nan => singleInfinity + Nat.pow 2 22
  | .infinite negative => signed negative singleInfinity
  | .finite negative m q => signed negative (singleMagnitude m q)

end QueryBook.Decimal
