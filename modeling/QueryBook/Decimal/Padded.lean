namespace QueryBook.Decimal

/-!
# Whole numbers of a least width

* `padded` — the digits of a number behind enough zeros.
-/

/-- The decimal digits of a number, at least `width` of them. -/
def padded (width n : Nat) : List Char :=
  let digits := Nat.toDigits 10 n
  List.replicate (width - digits.length) '0' ++ digits

/-- A number is not written in less than the width. -/
theorem le_length_padded (width n : Nat) : width ≤ (padded width n).length := by
  simp only [padded, List.length_append, List.length_replicate]
  omega

end QueryBook.Decimal
