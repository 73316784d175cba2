import QueryBook.Decimal.Shortest

namespace QueryBook.Decimal

/-!
# How a number is written

The decisions of a format for floating-point numbers, and the text that they give.

* `Form` — where positional writing ends, whether whole numbers keep a decimal, and the texts of
  what is no number.
* `Form.write` — the text of a number: the fewest digits that read back, placed as the form says.
-/

/-- The decisions of a format. The leading digit's place (0 for units) decides between positional
    writing and writing with an exponent. -/
structure Form where
  /-- Leading digits below this place are written with an exponent. -/
  lowest : Option Int
  /-- Leading digits from this place on are written with an exponent. -/
  highest : Option Int
  /-- A whole number in positional writing ends with `.0`. -/
  wholeDecimal : Bool
  /-- An exponent of zero or more bears a `+`. -/
  plusSign : Bool
  tie : Tie
  notANumber : String
  infinity : String
  negativeInfinity : String

/-- Digits in positional writing, the point behind `point` of them. -/
def positional (wholeDecimal : Bool) (digits : List Char) (point : Int) : List Char :=
  if point ≤ 0 then '0' :: '.' :: (List.replicate (-point).toNat '0' ++ digits)
  else
    let whole := digits.take point.toNat ++ List.replicate (point.toNat - digits.length) '0'
    match digits.drop point.toNat with
    | [] => if wholeDecimal then whole ++ ['.', '0'] else whole
    | fraction => whole ++ '.' :: fraction

/-- Digits with an exponent: one digit before the point. -/
def withExponent (plusSign : Bool) (digits : List Char) (place : Int) : List Char :=
  let head := digits.take 1
  let mantissa := match digits.drop 1 with
    | [] => head
    | fraction => head ++ '.' :: fraction
  let sign := if place < 0 then ['-'] else if plusSign then ['+'] else []
  mantissa ++ 'e' :: (sign ++ Nat.toDigits 10 place.natAbs)

/-- The text of a decimal that is zero or above. -/
def Form.writeScaled (f : Form) (d : Scaled) : List Char :=
  let digits := Nat.toDigits 10 d.digits
  let place := d.exponent + digits.length - 1
  if d.digits = 0 then positional f.wholeDecimal ['0'] 1
  else if f.lowest.any (place < ·) || f.highest.any (· ≤ place) then
    withExponent f.plusSign digits place
  else positional f.wholeDecimal digits (place + 1)

/-- The text of a number. -/
def Form.write (f : Form) (x : Float) : String :=
  match Binary.ofFloat x with
  | .nan => f.notANumber
  | .infinite negative => if negative then f.negativeInfinity else f.infinity
  | .finite negative m q =>
    let body := f.writeScaled (shortest f.tie m q)
    String.ofList (if negative then '-' :: body else body)

end QueryBook.Decimal
