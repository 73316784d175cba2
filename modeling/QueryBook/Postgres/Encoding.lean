import QueryBook.Decimal.Single
import QueryBook.Postgres.Bytes
import QueryBook.Value

namespace QueryBook.Postgres

/-!
# Values on the wire

* `ColumnType` — the types that values may be sent as.
* `encode` — a value in the binary format of a type. Which format it is, the value says; the type
  says how wide a number is.
* `Encoded`, `EncodeFault` — the bytes, and why there are none.
-/

/-- The type that a value is sent as. -/
inductive ColumnType where
  | int2
  | int4
  | int8
  | float4
  | float8
  | text
  | varchar
  | bpchar
  | name
  | bool
  | timestamp
  | json
  | jsonb
  | bytea
  /-- A type that no value is sent as. -/
  | other (tag : String)
deriving DecidableEq, Repr

namespace ColumnType

/-- The types that values may be sent as. -/
def sendable : List ColumnType :=
  [int2, int4, int8, float4, float8, text, varchar, bpchar, name, bool, timestamp, json, jsonb,
    bytea]

/-- The word for a type. -/
def tag : ColumnType → String
  | int2 => "int2"
  | int4 => "int4"
  | int8 => "int8"
  | float4 => "float4"
  | float8 => "float8"
  | text => "text"
  | varchar => "varchar"
  | bpchar => "bpchar"
  | name => "name"
  | bool => "bool"
  | timestamp => "timestamp"
  | json => "json"
  | jsonb => "jsonb"
  | bytea => "bytea"
  | other tag => tag

/-- The type of a word. -/
def ofTag (word : String) : ColumnType := (sendable.find? fun t => t.tag == word).getD (other word)

/-- Whether values may be sent as a type. -/
def accepted : ColumnType → Bool
  | other _ => false
  | _ => true

/-- The types that are accepted have tags of their own. -/
theorem ofTag_tag {t : ColumnType} (h : t.accepted = true) : ofTag t.tag = t := by
  cases t with
  | other => simp [accepted] at h
  | _ => rfl

end ColumnType

/-- What is sent for a value. -/
inductive Encoded where
  | null
  | bytes (bs : List UInt8)
deriving DecidableEq, Repr

/-- Why a value is not sent. -/
inductive EncodeFault where
  | notAccepted (type : ColumnType)
  | tooLarge
  | tooSmall
deriving DecidableEq, Repr

/-- The wording of a fault. -/
def EncodeFault.message : EncodeFault → String
  | notAccepted type =>
    "cannot convert between the Rust type `sql_template_middleware::types::RowValues` and the " ++
      "Postgres type `" ++ type.tag ++ "`"
  | tooLarge => "number too large to fit in target type"
  | tooSmall => "number too small to fit in target type"

/-- A number with a sign in a number of bytes, if it fits. -/
def encodeInt (width : Nat) (n : Int) : Except EncodeFault Encoded :=
  if (capacity width : Int) ≤ 2 * n then .error .tooLarge
  else if 2 * n < -(capacity width : Int) then .error .tooSmall
  else .ok (.bytes (bigEndian width (twosComplement width n)))

/-- How many bytes a whole number has. -/
def ColumnType.intWidth : ColumnType → Nat
  | int2 => 2
  | int4 => 4
  | _ => 8

/-- The bytes of a floating-point number. -/
def encodeFloat (type : ColumnType) (x : Float) : List UInt8 :=
  match type with
  | .float4 => bigEndian 4 (Decimal.singleBits x)
  | _ => bigEndian 8 x.toBits.toNat

/-- The bytes of a text. -/
def encodeText (s : String) : List UInt8 := s.toUTF8.data.toList

/-- A value in the binary format of a type. -/
def encode (type : ColumnType) (v : Value) : Except EncodeFault Encoded :=
  if !type.accepted then .error (.notAccepted type)
  else
    match v with
    | .null => .ok .null
    | .int n => encodeInt type.intWidth n.toInt
    | .float x => .ok (.bytes (encodeFloat type x))
    | .text s | .sqlLiteral s => .ok (.bytes (encodeText s))
    | .bool b => .ok (.bytes [if b then 1 else 0])
    -- Years of six digits still fit.
    | .timestamp t => encodeInt 8 t.microsecondsSince2000
    | .json j => .ok (.bytes ((if type = .jsonb then [1] else []) ++ encodeText j.compact))
    | .blob bytes => .ok (.bytes bytes)

/-- A number that is sent has the width of its type. -/
theorem length_of_encodeInt {width : Nat} {n : Int} {bs : List UInt8}
    (h : encodeInt width n = .ok (.bytes bs)) : bs.length = width := by
  unfold encodeInt at h
  split at h
  · simp at h
  · split at h
    · simp at h
    · simp only [Except.ok.injEq, Encoded.bytes.injEq] at h
      rw [← h, length_bigEndian]

end QueryBook.Postgres
