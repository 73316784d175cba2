import QueryBook.Json.Basic
import QueryBook.Text.Quoted

namespace QueryBook

/-!
# What can be wrong with a JSON text

* `Json.Fault` — the causes, of form and of type.
* `Json.Fault.message` — their wording.
-/

/-- A value as a message about its type names it. -/
inductive Json.Found where
  | null
  | bool (b : Bool)
  | int (n : Int)
  | float (x : Float)
  | text (s : String)
  | sequence
  | map

/-- Why a JSON text is refused. -/
inductive Json.Fault where
  | unendedValue
  | unendedList
  | unendedObject
  | unendedText
  | noValue
  | noWord
  | noColon
  | noListSeparator
  | noObjectSeparator
  | keyNotText
  | trailingComma
  | trailingCharacters
  | badNumber
  | numberOutOfRange
  | badEscape
  | loneSurrogate
  | unendedEscape
  | controlCharacter
  | tooDeep
  /-- A value of another type than the one that is wanted. -/
  | wrongType (found : Json.Found) (wanted : String)
  /-- A whole number that the wanted type does not hold. -/
  | wrongValue (found : Int) (wanted : String)
  | duplicateField (name : String)
  | missingField (name : String)

namespace Json

/-- The words for a value that was found. -/
def Found.describe : Found → String
  | .null => "null"
  | .bool b => "boolean `" ++ (if b then "true" else "false") ++ "`"
  | .int n => "integer `" ++ n.repr ++ "`"
  | .float x => "floating point `" ++ numberForm.write x ++ "`"
  | .text s => "string " ++ Text.quoted s
  | .sequence => "sequence"
  | .map => "map"

/-- The wording of a fault. -/
def Fault.message : Fault → String
  | .unendedValue => "EOF while parsing a value"
  | .unendedList => "EOF while parsing a list"
  | .unendedObject => "EOF while parsing an object"
  | .unendedText => "EOF while parsing a string"
  | .noValue => "expected value"
  | .noWord => "expected ident"
  | .noColon => "expected `:`"
  | .noListSeparator => "expected `,` or `]`"
  | .noObjectSeparator => "expected `,` or `\x7d`"
  | .keyNotText => "key must be a string"
  | .trailingComma => "trailing comma"
  | .trailingCharacters => "trailing characters"
  | .badNumber => "invalid number"
  | .numberOutOfRange => "number out of range"
  | .badEscape => "invalid escape"
  | .loneSurrogate => "lone leading surrogate in hex escape"
  | .unendedEscape => "unexpected end of hex escape"
  | .controlCharacter => "control character (\\u0000-\\u001F) found while parsing a string"
  | .tooDeep => "recursion limit exceeded"
  | .wrongType found wanted => "invalid type: " ++ found.describe ++ ", expected " ++ wanted
  | .wrongValue found wanted =>
    "invalid value: integer `" ++ found.repr ++ "`, expected " ++ wanted
  | .duplicateField name => "duplicate field `" ++ name ++ "`"
  | .missingField name => "missing field `" ++ name ++ "`"

end Json

end QueryBook
