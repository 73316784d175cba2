import QueryBook.Json.Fault
import QueryBook.Text.Span

namespace QueryBook.Json

/-!
# The tokens of a JSON text

Readers of one token each. A reader takes the characters that are left and gives its result with
those that are left then, or the first fault in text order.

* `Reader` — the type of readers.
* `skipBlanks`, `readWord`, `readText`, `readNumber` — the tokens.
-/

/-- Reads something from the beginning of the characters that are left. -/
abbrev Reader (α : Type) := List Char → Except Fault (α × List Char)

/-- The blanks of JSON are space, tab and the two line ends. -/
def skipBlanks (cs : List Char) : List Char :=
  cs.dropWhile fun c => c = ' ' || c = '\n' || c = '\t' || c = '\r'

/-- To skip blanks leaves no more than there was. -/
theorem skipBlanks_length_le (cs : List Char) : (skipBlanks cs).length ≤ cs.length :=
  (List.dropWhile_sublist _).length_le

/-- The rest of `null`, `true` or `false` behind its first letter. -/
def readWord : List Char → Reader Unit
  | [], cs => .ok ((), cs)
  | _ :: _, [] => .error .unendedValue
  | w :: ws, c :: cs => if w = c then readWord ws cs else .error .noWord

/-! ### Texts -/

/-- The value of four hexadecimal digits. -/
def hexValue? (cs : List Char) : Option Nat :=
  cs.foldl (fun n? c => n?.bind fun n => (digit? c).map (16 * n + ·)) (some 0)
where
  /-- The value of one digit. -/
  digit? (c : Char) : Option Nat :=
    if c.isDigit then some (c.toNat - 48)
    else if 'a' ≤ c && c ≤ 'f' then some (c.toNat - 87)
    else if 'A' ≤ c && c ≤ 'F' then some (c.toNat - 55)
    else none

/-- Four hexadecimal digits. A text that ends before four bytes is cut short. -/
def readHexQuad (cs : List Char) : Except Fault (Nat × List Char) :=
  if Text.utf8Length cs < 4 then .error .unendedText
  else
    match hexValue? (cs.take 4) with
    | some n => .ok (n, cs.drop 4)
    | none => .error .badEscape

/-- The second half of a pair of surrogates, behind the first one. -/
def readLowSurrogate : List Char → Except Fault (Nat × List Char)
  | [] => .error .unendedText
  | '\\' :: [] => .error .unendedText
  | '\\' :: 'u' :: cs => do
    let (n, rest) ← readHexQuad cs
    if 0xDC00 ≤ n ∧ n ≤ 0xDFFF then .ok (n, rest) else .error .loneSurrogate
  | _ => .error .unendedEscape

/-- The character that an escape stands for, read from behind the backslash. -/
def readEscape : List Char → Except Fault (Char × List Char)
  | [] => .error .unendedText
  | '"' :: cs => .ok ('"', cs)
  | '\\' :: cs => .ok ('\\', cs)
  | '/' :: cs => .ok ('/', cs)
  | 'b' :: cs => .ok ('\x08', cs)
  | 'f' :: cs => .ok ('\x0c', cs)
  | 'n' :: cs => .ok ('\n', cs)
  | 'r' :: cs => .ok ('\r', cs)
  | 't' :: cs => .ok ('\t', cs)
  | 'u' :: cs => do
    let (n, rest) ← readHexQuad cs
    if 0xDC00 ≤ n ∧ n ≤ 0xDFFF then .error .loneSurrogate
    else if 0xD800 ≤ n ∧ n ≤ 0xDBFF then do
      let (low, rest) ← readLowSurrogate rest
      .ok (Char.ofNat (0x10000 + (n - 0xD800) * 0x400 + (low - 0xDC00)), rest)
    else .ok (Char.ofNat n, rest)
  | _ => .error .badEscape

/-- The characters up to the closing quote, `escape` reading what follows a backslash. -/
def readChars (escape : List Char → Except Fault (Char × List Char)) :
    Nat → List Char → Except Fault (List Char × List Char)
  | 0, _ => .error .unendedText
  | _ + 1, [] => .error .unendedText
  | _ + 1, '"' :: cs => .ok ([], cs)
  | fuel + 1, '\\' :: cs => do
    let (c, rest) ← escape cs
    let (chars, rest) ← readChars escape fuel rest
    .ok (c :: chars, rest)
  | fuel + 1, c :: cs =>
    if c.toNat < 0x20 then .error .controlCharacter
    else do
      let (chars, rest) ← readChars escape fuel cs
      .ok (c :: chars, rest)

/-- A text behind its opening quote. Each step takes a character, so the length bounds their
    number. -/
def readText : Reader String := fun cs => do
  let (chars, rest) ← readChars readEscape (cs.length + 1) cs
  .ok (String.ofList chars, rest)

/-- An escape of a text that nobody reads: only its form counts. -/
def skipEscape : List Char → Except Fault (Char × List Char)
  | 'u' :: cs => do
    let (_, rest) ← readHexQuad cs
    .ok (' ', rest)
  | cs => readEscape cs

/-- Passes a text behind its opening quote. -/
def skipText : Reader Unit := fun cs => do
  let (_, rest) ← readChars skipEscape (cs.length + 1) cs
  .ok ((), rest)

/-! ### Numbers -/

/-- A number as it is read: a whole one as long as it fits into 64 bits, with its sign or without
    one. -/
inductive Number where
  | int (n : Int)
  | float (x : Float)

/-- The number as a value. -/
def Number.toJson : Number → Json
  | .int n => .int n
  | .float x => .float x

/-- The number as a message names it. -/
def Number.found : Number → Found
  | .int n => .int n
  | .float x => .float x

/-- The largest significand that is kept exactly. -/
def significandLimit : Nat := UInt64.size - 1

/-- The digits at the beginning, folded into a significand as long as it keeps its limit. Gives the
    significand, the number of digits taken, and the rest. -/
def takeDigits (n : Nat) (taken : Nat) : List Char → Nat × Nat × List Char
  | [] => (n, taken, [])
  | c :: cs =>
    if c.isDigit && 10 * n + (c.toNat - 48) ≤ significandLimit then
      takeDigits (10 * n + (c.toNat - 48)) (taken + 1) cs
    else (n, taken, c :: cs)

/-- A power of ten, as near as a floating-point number gets. -/
def powerOfTen (n : Nat) : Float := Float.ofScientific 1 false n

/-- `significand · 10 ^ exponent` with one rounding for each factor; very small numbers are reached
    in steps of `10 ^ 308`. -/
def scaleFloat : Nat → Float → Int → Except Fault Float
  | 0, x, _ => .ok x
  | fuel + 1, x, exponent =>
    if exponent.natAbs ≤ 308 then
      if 0 ≤ exponent then
        let y := x * powerOfTen exponent.natAbs
        if y.isInf then .error .numberOutOfRange else .ok y
      else .ok (x / powerOfTen exponent.natAbs)
    -- No power of ten changes a zero, and dividing on would only repeat it.
    else if x == 0 then .ok x
    else if 0 ≤ exponent then .error .numberOutOfRange
    else scaleFloat fuel (x / powerOfTen 308) (exponent + 308)

/-- The floating-point number of a sign, a significand and an exponent. -/
def toFloat (negative : Bool) (significand : Nat) (exponent : Int) : Except Fault Number := do
  let x ← scaleFloat 8 significand.toUInt64.toFloat (max exponent (-2000))
  .ok (.float (if negative then -x else x))

/-- The exponent behind an `e`, added to `start`. -/
def readExponent (negative : Bool) (significand : Nat) (start : Int) : Reader Number := fun cs =>
  let (down, digits) := match cs with
    | '+' :: rest => (false, rest)
    | '-' :: rest => (true, rest)
    | _ => (false, cs)
  match digits with
  | [] => .error .unendedValue
  | c :: _ =>
    if !c.isDigit then .error .badNumber
    else
      let (taken, rest) := digits.span Char.isDigit
      let size : Nat := taken.foldl (fun n c => 10 * n + (c.toNat - 48)) 0
      if size < UInt32.size / 2 then do
        let x ← toFloat negative significand (if down then start - size else start + size)
        .ok (x, rest)
      -- An exponent beyond 32 bits: only zero and what vanishes are numbers.
      else if significand ≠ 0 ∧ !down then .error .numberOutOfRange
      else do
        let x ← toFloat negative 0 0
        .ok (x, rest)

/-- What may follow the digits of a floating-point number: an exponent. -/
def readFloatEnd (negative : Bool) (significand : Nat) (exponent : Int) : Reader Number := fun cs =>
  match cs with
  | 'e' :: rest => readExponent negative significand exponent rest
  | 'E' :: rest => readExponent negative significand exponent rest
  | _ => do
    let x ← toFloat negative significand exponent
    .ok (x, cs)

/-- The decimals behind a point. Those that the significand has no room for are passed over. -/
def readDecimals (negative : Bool) (significand : Nat) (exponent : Int) : Reader Number := fun cs =>
  match cs with
  | [] => .error .unendedValue
  | c :: _ =>
    if !c.isDigit then .error .badNumber
    else
      let (n, taken, rest) := takeDigits significand 0 cs
      readFloatEnd negative n (exponent - taken) (rest.dropWhile Char.isDigit)

/-- What follows the whole part of a number that fits its limit. -/
def readFraction (negative : Bool) (significand : Nat) : Reader Number := fun cs =>
  match cs with
  | '.' :: rest => readDecimals negative significand 0 rest
  | 'e' :: rest => readExponent negative significand 0 rest
  | 'E' :: rest => readExponent negative significand 0 rest
  | _ =>
    if !negative then .ok (.int significand, cs)
    else if significand = 0 ∨ UInt64.size / 2 < significand then
      .ok (.float (-significand.toUInt64.toFloat), cs)
    else .ok (.int (-significand), cs)

/-- A number behind its sign. A zero at the beginning stands alone; digits beyond the limit only
    count. -/
def readNumber (negative : Bool) : Reader Number := fun cs =>
  match cs with
  | [] => .error .unendedValue
  | '0' :: rest =>
    if rest.head?.any Char.isDigit then .error .badNumber else readFraction negative 0 rest
  | c :: _ =>
    if !c.isDigit then .error .badNumber
    else
      let (n, _, rest) := takeDigits 0 0 cs
      let (extra, rest) := rest.span Char.isDigit
      match extra, rest with
      | [], _ => readFraction negative n rest
      | _, '.' :: rest => readDecimals negative n extra.length rest
      | _, _ => readFloatEnd negative n extra.length rest

end QueryBook.Json
