import QueryBook.Json.Basic
import QueryBook.Text.Blank
import QueryBook.Text.Quoted
import QueryBook.Timestamp

namespace QueryBook

/-!
# Values

What a parameter holds and what a column of a row holds.

* `Value` — the values of all databases.
* `Value.isBlank` — a value that counts as absent.
* `Value.literal?` — the SQL text of a value, if it has one.
* `Value.toJson`, `Value.describe` — a value as JSON, and in a message.
-/

/-- A database value. A `sqlLiteral` is text that its giver has checked to be SQL. -/
inductive Value where
  | int (n : Int64)
  | float (x : Float)
  | text (s : String)
  | bool (b : Bool)
  | timestamp (t : Timestamp)
  | null
  | json (j : Json)
  | blob (bytes : List UInt8)
  | sqlLiteral (s : String)

namespace Value

instance : Inhabited Value := ⟨null⟩

/-- Whether a value is null. -/
def isNull : Value → Bool
  | null => true
  | _ => false

/-- Null, or text of blanks only. -/
def isBlank : Value → Bool
  | null => true
  | text s | sqlLiteral s => Text.isBlank s
  | _ => false

/-- The number of a whole-number value. -/
def asInt? : Value → Option Int64
  | int n => some n
  | _ => none

/-- The characters of a text value. -/
def asText? : Value → Option String
  | text s | sqlLiteral s => some s
  | _ => none

/-- A floating-point number in SQL text: never with an exponent. -/
def numberForm : Decimal.Form where
  lowest := none
  highest := none
  wholeDecimal := false
  plusSign := false
  tie := .up
  notANumber := "NaN"
  infinity := "inf"
  negativeInfinity := "-inf"

/-- The SQL text of a value. Null and binary data have none. -/
def literal? : Value → Option String
  | int n => some n.toInt.repr
  | float x => some (numberForm.write x)
  | text s | sqlLiteral s => some s
  | bool b => some (if b then "1" else "0")
  | timestamp t => some t.text
  | json j => some j.compact
  | null | blob _ => none

/-- A value as JSON. Numbers that are none are null. -/
def toJson : Value → Json
  | int n => .int n.toInt
  | float x => if x.isFinite then .float x else .null
  | text s | sqlLiteral s => .text s
  | bool b => .bool b
  | timestamp t => .text t.text
  | null => .null
  | json j => j
  | blob bytes => .array (bytes.map fun b => .int b.toNat)

/-! ### Description -/

/-- A floating-point number in a message: positional from `0.0001` to below `10 ^ 16`, always with a
    decimal, and an exponent without a plus. -/
def messageForm : Decimal.Form where
  lowest := some (-4)
  highest := some 16
  wholeDecimal := true
  plusSign := false
  tie := .up
  notANumber := "NaN"
  infinity := "inf"
  negativeInfinity := "-inf"

mutual

/-- JSON with the kind of each value named. -/
def describeJson : Json → String
  | .null => "Null"
  | .bool b => "Bool(" ++ (if b then "true" else "false") ++ ")"
  | .int n => "Number(" ++ n.repr ++ ")"
  | .float x => "Number(" ++ Json.numberForm.write x ++ ")"
  | .text s => "String(" ++ Text.quoted s ++ ")"
  | .array items => "Array [" ++ ", ".intercalate (describeItems items) ++ "]"
  | .object members => "Object \x7b" ++ ", ".intercalate (describeMembers members) ++ "\x7d"

/-- The descriptions of the items of a list. -/
def describeItems : List Json → List String
  | [] => []
  | j :: js => describeJson j :: describeItems js

/-- The descriptions of the members of an object. -/
def describeMembers : List (String × Json) → List String
  | [] => []
  | (name, j) :: ms => (Text.quoted name ++ ": " ++ describeJson j) :: describeMembers ms

end

/-- A value with its kind named, for a message. -/
def describe : Value → String
  | int n => "Int(" ++ n.toInt.repr ++ ")"
  | float x => "Float(" ++ messageForm.write x ++ ")"
  | text s => "Text(" ++ Text.quoted s ++ ")"
  | bool b => "Bool(" ++ (if b then "true" else "false") ++ ")"
  | timestamp t => "Timestamp(" ++ t.write 'T' ++ ")"
  | null => "Null"
  | json j => "JSON(" ++ describeJson j ++ ")"
  | blob bytes => "Blob([" ++ ", ".intercalate (bytes.map fun b => b.toNat.repr) ++ "])"
  | sqlLiteral s => "SqlLiteral(" ++ Text.quoted s ++ ")"

/-- Null is blank. -/
@[simp] theorem isBlank_null : isBlank null = true := rfl

/-- A value without SQL text is null or binary. -/
theorem literal?_eq_none_iff {v : Value} :
    v.literal? = none ↔ v = null ∨ ∃ bytes, v = blob bytes := by
  cases v <;> simp [literal?]

end Value

end QueryBook
