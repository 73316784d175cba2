import QueryBook.Decimal.Form

namespace QueryBook

/-!
# JSON values

* `Json` — the values, with whole numbers and floating-point numbers apart.
* `Json.object`, `Json.insertMember` — the members of an object stand in the order of their names
  and no name comes twice: of two members of one name the later is kept.
* `Json.compact` — the text without blanks.

Main statement: a member that was written is read back (`lookup?_insertMember`).
-/

/-- A JSON value. -/
inductive Json where
  | null
  | bool (b : Bool)
  | int (n : Int)
  | float (x : Float)
  | text (s : String)
  | array (items : List Json)
  | object (members : List (String × Json))

namespace Json

instance : Inhabited Json := ⟨null⟩

/-! ### Members -/

/-- Writes a member at the place of its name. -/
def insertMember (name : String) (value : Json) : List (String × Json) → List (String × Json)
  | [] => [(name, value)]
  | m :: ms =>
    if m.1 = name then (name, value) :: ms
    else if name < m.1 then (name, value) :: m :: ms
    else m :: insertMember name value ms

/-- The object of some members, written one after another. -/
def ofMembers (members : List (String × Json)) : Json :=
  object (members.foldl (fun ms m => insertMember m.1 m.2 ms) [])

/-- The member of a name. -/
def lookup? (name : String) : List (String × Json) → Option Json
  | [] => none
  | m :: ms => if m.1 = name then some m.2 else lookup? name ms

/-- The member of a name, if the value is an object that has it. -/
def member? (name : String) : Json → Option Json
  | object members => lookup? name members
  | _ => none

@[simp] theorem lookup?_insertMember (name name' : String) (value : Json)
    (ms : List (String × Json)) :
    lookup? name' (insertMember name value ms) =
      if name = name' then some value else lookup? name' ms := by
  induction ms with
  | nil => simp [insertMember, lookup?]
  | cons m ms ih =>
    by_cases h : m.1 = name
    · by_cases h' : name = name' <;> simp_all [insertMember, lookup?]
    · by_cases hlt : name < m.1
      · simp [insertMember, h, hlt, lookup?]
      · by_cases h' : name = name'
        · subst h'; simp [insertMember, h, hlt, lookup?, ih]
        · simp [insertMember, h, hlt, lookup?, ih, h']

/-! ### Text -/

/-- Numbers in JSON: positional from `0.00001` to below `10 ^ 16`, always with a decimal. What is
    no number has no form of its own and is written as `null`. -/
def numberForm : Decimal.Form where
  lowest := some (-5)
  highest := some 16
  wholeDecimal := true
  plusSign := true
  tie := .toEven
  notANumber := "null"
  infinity := "null"
  negativeInfinity := "null"

/-- Two hexadecimal digits. -/
def hexPair (n : Nat) : List Char := [Nat.digitChar (n / 16 % 16), Nat.digitChar (n % 16)]

/-- One character of a text: only quotes, backslashes and control characters are escaped. -/
def escapeChar (c : Char) : List Char :=
  if c = '"' then ['\\', '"']
  else if c = '\\' then ['\\', '\\']
  else if c = '\n' then ['\\', 'n']
  else if c = '\r' then ['\\', 'r']
  else if c = '\t' then ['\\', 't']
  else if c = '\x08' then ['\\', 'b']
  else if c = '\x0c' then ['\\', 'f']
  else if c.toNat < 0x20 then ['\\', 'u', '0', '0'] ++ hexPair c.toNat
  else [c]

/-- A text between quotes. -/
def writeText (s : String) : List Char := '"' :: (s.toList.flatMap escapeChar ++ ['"'])

mutual

/-- The characters of a value. -/
def write : Json → List Char
  | null => "null".toList
  | bool b => if b then "true".toList else "false".toList
  | int n => n.repr.toList
  | float x => (numberForm.write x).toList
  | text s => writeText s
  | array items => '[' :: (writeItems items ++ [']'])
  | object members => '\x7b' :: (writeMembers members ++ ['\x7d'])

/-- Items with commas between them. -/
def writeItems : List Json → List Char
  | [] => []
  | [j] => write j
  | j :: js => write j ++ ',' :: writeItems js

/-- Members with commas between them. -/
def writeMembers : List (String × Json) → List Char
  | [] => []
  | [(name, j)] => writeText name ++ ':' :: write j
  | (name, j) :: ms => writeText name ++ ':' :: (write j ++ ',' :: writeMembers ms)

end

/-- The text of a value, without blanks. -/
def compact (j : Json) : String := String.ofList j.write

end Json

end QueryBook
