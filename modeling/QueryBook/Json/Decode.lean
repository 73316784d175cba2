import QueryBook.Json.Reader

namespace QueryBook.Json

/-!
# Values of a wanted type

Readers that want a value of a certain type and report the first one that is not.

* `readString`, `readOptional`, `readUnsigned`, `readTextList`, `readTextMap` — single values.
* `RecordField`, `readRecord` — a record, as an object in any order or as a list in the order of
  its fields.
* `Json.asInt64`, `Json.asText`, `Json.asFloat`, `Json.orNull` — the same of a value that is read
  already.
-/

/-- A text. -/
def readString (wanted : String) : Reader String := fun cs =>
  match skipBlanks cs with
  | '"' :: rest => readText rest
  | cs => .error (refuse wanted cs)

/-- A value or `null`. -/
def readOptional {α : Type} (read : Reader α) : Reader (Option α) := fun cs =>
  match skipBlanks cs with
  | 'n' :: rest => do
    let (_, rest) ← readWord "ull".toList rest
    .ok (none, rest)
  | cs => do
    let (a, rest) ← read cs
    .ok (some a, rest)

/-- A whole number from zero to a limit. -/
def readUnsigned (limit : Nat) (wanted : String) : Reader Nat := fun cs =>
  let check (r : Except Fault (Number × List Char)) : Except Fault (Nat × List Char) := do
    match ← r with
    | (.int n, rest) =>
      if 0 ≤ n ∧ n ≤ limit then .ok (n.toNat, rest) else .error (.wrongValue n wanted)
    | (.float x, _) => .error (.wrongType (.float x) wanted)
  match skipBlanks cs with
  | '-' :: rest => check (readNumber true rest)
  | c :: rest =>
    if c.isDigit then check (readNumber false (c :: rest)) else .error (refuse wanted (c :: rest))
  | [] => .error .unendedValue

/-- The texts of a list behind its opening bracket or a text. -/
def readTexts : Nat → Bool → Reader (List String)
  | 0, _, _ => .error .unendedList
  | fuel + 1, first, cs => do
    let (more, rest) ← nextItem first cs
    if !more then .ok ([], rest)
    else do
      let (s, rest) ← readString "a string" rest
      let (ss, rest) ← readTexts fuel false rest
      .ok (s :: ss, rest)

/-- A list of texts. -/
def readTextList : Reader (List String) := fun cs =>
  match skipBlanks cs with
  | '[' :: rest => readTexts (rest.length + 1) true rest
  | cs => .error (refuse "a sequence" cs)

/-- The texts of an object, by key, behind its opening bracket or a member. -/
def readTextMembers : Nat → Bool → Reader (List (String × String))
  | 0, _, _ => .error .unendedObject
  | fuel + 1, first, cs => do
    let (key?, rest) ← nextKey? first cs
    match key? with
    | none => .ok ([], rest)
    | some key => do
      let rest ← readColon rest
      let (s, rest) ← readString "a string" rest
      let (ms, rest) ← readTextMembers fuel false rest
      .ok ((key, s) :: ms, rest)

/-- An object of texts. -/
def readTextMap : Reader (List (String × String)) := fun cs =>
  match skipBlanks cs with
  | '\x7b' :: rest => readTextMembers (rest.length + 1) true rest
  | cs => .error (refuse "a map" cs)

/-! ### Records -/

/-- A field of a record `α`: its names, the first of which messages use, and how its value is read
    into a record. -/
structure RecordField (α : Type) where
  name : String
  otherName : Option String := none
  read : α → Reader α

/-- Whether a key is one of the names of a field. -/
def RecordField.matches {α : Type} (f : RecordField α) (key : String) : Bool :=
  key == f.name || f.otherName == some key

/-- The members of a record behind the opening bracket or a member. A field may come once; members
    that are no field are passed over. -/
def readRecordMembers {α : Type} (fields : List (RecordField α)) :
    Nat → Bool → List String → α → Reader α
  | 0, _, _, _, _ => .error .unendedObject
  | fuel + 1, first, seen, a, cs => do
    let (key?, rest) ← nextKey? first cs
    match key? with
    | none => .ok (a, rest)
    | some key =>
      match fields.find? (·.matches key) with
      | none => do
        let rest ← readColon rest
        let (_, rest) ← skipValue rest
        readRecordMembers fields fuel false seen a rest
      | some f =>
        if seen.contains f.name then .error (.duplicateField f.name)
        else do
          let rest ← readColon rest
          let (a, rest) ← f.read a rest
          readRecordMembers fields fuel false (f.name :: seen) a rest

/-- The end of a list that holds all fields already. -/
def readListEnd (cs : List Char) : Except Fault (List Char) :=
  match skipBlanks cs with
  | [] => .error .unendedList
  | ']' :: rest => .ok rest
  | ',' :: rest =>
    if (skipBlanks rest).head? = some ']' then .error .trailingComma
    else .error .trailingCharacters
  | _ => .error .trailingCharacters

/-- The items of a record behind the opening bracket or an item; the last fields may be missing. -/
def readRecordItems {α : Type} (first : Bool) (a : α) : List (RecordField α) → Reader α
  | [], cs => do
    let rest ← readListEnd cs
    .ok (a, rest)
  | f :: fs, cs => do
    let (more, rest) ← nextItem first cs
    if !more then .ok (a, rest)
    else do
      let (a, rest) ← f.read a rest
      readRecordItems false a fs rest

/-- A record, as an object or as a list of its fields. Fields that are missing keep the values of
    `start`. -/
def readRecord {α : Type} (wanted : String) (fields : List (RecordField α)) (start : α) :
    Reader α :=
  fun cs =>
    match skipBlanks cs with
    | '\x7b' :: rest => readRecordMembers fields (rest.length + 1) true [] start rest
    | '[' :: rest => readRecordItems true start fields rest
    | cs => .error (refuse wanted cs)

/-- What a whole text holds. -/
def decode {α : Type} (read : Reader α) (text : String) : Except Fault α := do
  let (a, rest) ← read text.toList
  finish rest
  .ok a

/-! ### Values that are read already -/

/-- A value as a message names it. -/
def found : Json → Found
  | null => .null
  | bool b => .bool b
  | int n => .int n
  | float x => .float x
  | text s => .text s
  | array _ => .sequence
  | object _ => .map

/-- A whole number of 64 bits with a sign. -/
def asInt64 : Json → Except Fault Int64
  | int n => if n ≤ Int64.maxValue.toInt then .ok (Int64.ofInt n) else .error (.wrongValue n "i64")
  | j => .error (.wrongType j.found "i64")

/-- A text. -/
def asText : Json → Except Fault String
  | text s => .ok s
  | j => .error (.wrongType j.found "a string")

/-- A floating-point number, or the nearest one to a whole number. -/
def asFloat : Json → Except Fault Float
  | int n => .ok (Float.ofInt n)
  | float x => .ok x
  | j => .error (.wrongType j.found "f64")

/-- A value or `null`. -/
def orNull {α : Type} (read : Json → Except Fault α) : Json → Except Fault (Option α)
  | null => .ok none
  | j => (read j).map some

/-- A field that must be there. -/
def required {α : Type} (name : String) : Option α → Except Fault α
  | some a => .ok a
  | none => .error (.missingField name)

end QueryBook.Json
