import QueryBook.Text.Search
import QueryBook.Text.Span
import QueryBook.Text.Split
import QueryBook.Xml.Fault

namespace QueryBook.Xml

/-!
# Entities

* `expand` — a text with its entities replaced: five names, and characters by their number.
* `characterOf` — the character of a number as it is written.
-/

/-- The characters that have a name. -/
def namedEntity? (name : List Char) : Option Char :=
  match String.ofList name with
  | "lt" => some '<'
  | "gt" => some '>'
  | "amp" => some '&'
  | "apos" => some '\''
  | "quot" => some '"'
  | _ => none

/-- The largest number that is read at all. -/
def codeLimit : Nat := UInt32.size - 1

/-- The value of a digit in a base of at most sixteen. -/
def digitValue? (base : Nat) (c : Char) : Option Nat :=
  let value :=
    if c.isDigit then some (c.toNat - 48)
    else if 'a' ≤ c && c ≤ 'f' then some (c.toNat - 87)
    else if 'A' ≤ c && c ≤ 'F' then some (c.toNat - 55)
    else none
  value.filter (· < base)

/-- The number that digits stand for, from left to right. -/
def readDigits (base : Nat) (n : Nat) : List Char → Except CharacterFault Nat
  | [] => .ok n
  | c :: cs =>
    match digitValue? base c with
    | none => .error .badDigit
    | some d =>
      if codeLimit < base * n + d then .error .tooLarge else readDigits base (base * n + d) cs

/-- The number behind the `#`: decimal, or hexadecimal behind an `x`. -/
def readCode (cs : List Char) : Except CharacterFault Nat :=
  let (base, digits) := match cs with
    | 'x' :: rest => (16, rest)
    | _ => (10, cs)
  match digits with
  | [] => .error .noDigits
  | c :: _ => if c = '+' ∨ c = '-' then .error .sign else readDigits base 0 digits

/-- The character of a number. -/
def characterOf (cs : List Char) : Except CharacterFault Char := do
  let n ← readCode cs
  if n = 0 then .error .zero
  else if n.isValidChar then .ok (Char.ofNat n)
  else .error (.noCharacter n)

/-- The rest of a text of `total` bytes with its entities replaced. Each entity is an `&`, a name
    and a `;` before the next `&`. -/
def expandFrom (total : Nat) : Nat → List Char → Except EntityFault (List Char)
  | _, [] => .ok []
  | skip + 1, _ :: cs => expandFrom total skip cs
  | 0, c :: cs =>
    if c ≠ '&' then (expandFrom total 0 cs).map (c :: ·)
    else
      let name := cs.takeWhile fun d => d ≠ ';' && d ≠ '&'
      let start := total - Text.utf8Length cs
      -- Another ampersand, or the end of the text, comes before any semicolon.
      if (cs.drop name.length).head? ≠ some ';' then .error (.unended (start - 1) total)
      else
        match name with
        | '#' :: code =>
          match characterOf code with
          | .error fault => .error (.character fault)
          | .ok d => (expandFrom total (name.length + 1) cs).map (d :: ·)
        | _ =>
          match namedEntity? name with
          | none => .error (.unknown start (start + Text.utf8Length name) (String.ofList name))
          | some d => (expandFrom total (name.length + 1) cs).map (d :: ·)

/-- A text with its entities replaced. -/
def expand (cs : List Char) : Except EntityFault (List Char) := expandFrom (Text.utf8Length cs) 0 cs

/-- A text without `&` stays as it is. -/
theorem expandFrom_of_forall_ne {cs : List Char} (total : Nat) (h : ∀ c ∈ cs, c ≠ '&') :
    expandFrom total 0 cs = .ok cs := by
  induction cs with
  | nil => rfl
  | cons c cs ih =>
    rw [expandFrom, if_pos (h c (by simp)), ih fun d hd => h d (by simp [hd])]
    rfl

end QueryBook.Xml
