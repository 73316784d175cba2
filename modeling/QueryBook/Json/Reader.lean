import QueryBook.Json.Token

namespace QueryBook.Json

/-!
# Reading JSON values

* `separator` — what stands between the items of a list or the members of an object.
* `readValue`, `parse` — any value; at most `depthLimit` brackets may be open at once.
* `skipValue` — passes a value that nobody reads, at any depth.
* `refuse` — the fault of a value that is not of the wanted type.
-/

/-- Whether another item follows, given the closing bracket and what to say if neither a comma nor
    the bracket comes. The characters given back begin with the item, or follow the bracket. -/
def separator (close : Char) (unended : Fault) (missing : Fault) (first : Bool)
    (cs : List Char) : Except Fault (Bool × List Char) :=
  match skipBlanks cs with
  | [] => .error unended
  | c :: rest =>
    if c = close then .ok (false, rest)
    -- No comma stands before the first item.
    else if first then .ok (true, c :: rest)
    else if c = ',' then
      match skipBlanks rest with
      | [] => .error .unendedValue
      | d :: rest => if d = close then .error .trailingComma else .ok (true, d :: rest)
    else .error missing

/-- Whether another item of a list follows. -/
def nextItem (first : Bool) (cs : List Char) : Except Fault (Bool × List Char) :=
  separator ']' .unendedList .noListSeparator first cs

/-- The key of the next member of an object with its colon, or nothing behind the last one. -/
def nextKey? (first : Bool) (cs : List Char) : Except Fault (Option String × List Char) := do
  let (more, rest) ← separator '\x7d' .unendedObject .noObjectSeparator first cs
  if !more then .ok (none, rest)
  else
    match rest with
    | '"' :: rest => do
      let (key, rest) ← readText rest
      .ok (some key, rest)
    | _ => .error .keyNotText

/-- The colon behind a key. -/
def readColon (cs : List Char) : Except Fault (List Char) :=
  match skipBlanks cs with
  | [] => .error .unendedObject
  | ':' :: rest => .ok rest
  | _ => .error .noColon

/-! ### Any value -/

mutual

/-- A value. Each step takes a character, so `fuel` bounds their number; `depth` is the number of
    brackets that may still be opened. -/
def readValue : Nat → Nat → Reader Json
  | 0, _, _ => .error .unendedValue
  | fuel + 1, depth, cs =>
    match skipBlanks cs with
    | [] => .error .unendedValue
    | 'n' :: rest => do
      let (_, rest) ← readWord "ull".toList rest
      .ok (.null, rest)
    | 't' :: rest => do
      let (_, rest) ← readWord "rue".toList rest
      .ok (.bool true, rest)
    | 'f' :: rest => do
      let (_, rest) ← readWord "alse".toList rest
      .ok (.bool false, rest)
    | '"' :: rest => do
      let (s, rest) ← readText rest
      .ok (.text s, rest)
    | '[' :: rest =>
      match depth with
      | 0 => .error .tooDeep
      | depth + 1 => do
        let (items, rest) ← readItems fuel depth true rest
        .ok (.array items, rest)
    | '\x7b' :: rest =>
      match depth with
      | 0 => .error .tooDeep
      | depth + 1 => do
        let (members, rest) ← readMembers fuel depth true rest
        .ok (ofMembers members, rest)
    | '-' :: rest => do
      let (n, rest) ← readNumber true rest
      .ok (n.toJson, rest)
    | c :: rest =>
      if c.isDigit then do
        let (n, rest) ← readNumber false (c :: rest)
        .ok (n.toJson, rest)
      else .error .noValue

/-- The items of a list behind its opening bracket or an item. -/
def readItems : Nat → Nat → Bool → Reader (List Json)
  | 0, _, _, _ => .error .unendedList
  | fuel + 1, depth, first, cs => do
    let (more, rest) ← nextItem first cs
    if !more then .ok ([], rest)
    else do
      let (item, rest) ← readValue fuel depth rest
      let (items, rest) ← readItems fuel depth false rest
      .ok (item :: items, rest)

/-- The members of an object behind its opening bracket or a member. -/
def readMembers : Nat → Nat → Bool → Reader (List (String × Json))
  | 0, _, _, _ => .error .unendedObject
  | fuel + 1, depth, first, cs => do
    let (key?, rest) ← nextKey? first cs
    match key? with
    | none => .ok ([], rest)
    | some key => do
      let rest ← readColon rest
      let (value, rest) ← readValue fuel depth rest
      let (members, rest) ← readMembers fuel depth false rest
      .ok ((key, value) :: members, rest)

end

/-- Requires that nothing but blanks is left. -/
def finish (cs : List Char) : Except Fault Unit :=
  match skipBlanks cs with
  | [] => .ok ()
  | _ => .error .trailingCharacters

/-- The number of brackets that may be open at once. -/
def depthLimit : Nat := 127

/-- The value that a text holds. -/
def parse (text : String) : Except Fault Json := do
  let cs := text.toList
  let (value, rest) ← readValue (2 * cs.length + 2) depthLimit cs
  finish rest
  .ok value

/-! ### Values that nobody reads -/

/-- Passes the digits of a number; at least one is wanted. -/
def skipDigits : Reader Unit := fun cs =>
  if cs.head?.any Char.isDigit then .ok ((), cs.dropWhile Char.isDigit) else .error .badNumber

/-- Passes the exponent of a number behind its `e`. -/
def skipExponent : Reader Unit := fun cs =>
  match cs with
  | '+' :: rest => skipDigits rest
  | '-' :: rest => skipDigits rest
  | _ => skipDigits cs

/-- Passes an exponent if there is one. -/
def skipNumberEnd : Reader Unit := fun cs =>
  match cs with
  | 'e' :: rest => skipExponent rest
  | 'E' :: rest => skipExponent rest
  | _ => .ok ((), cs)

/-- Passes a number behind its sign. Only its form counts, not its size. -/
def skipNumber : Reader Unit := fun cs => do
  let (_, rest) ← match cs with
    | '0' :: rest =>
      if rest.head?.any Char.isDigit then .error .badNumber else .ok ((), rest)
    | _ => skipDigits cs
  match rest with
  | '.' :: rest => do
    let (_, rest) ← skipDigits rest
    skipNumberEnd rest
  | _ => skipNumberEnd rest

/-- Passes a key and its colon. -/
def skipKey (cs : List Char) : Except Fault (List Char) :=
  match skipBlanks cs with
  | [] => .error .unendedObject
  | '"' :: rest => do
    let (_, rest) ← skipText rest
    readColon rest
  | _ => .error .keyNotText

/-- A bracket that is open while a value is passed. -/
inductive Bracket where
  | list
  | object

namespace Bracket

/-- The character that closes the bracket. -/
def close : Bracket → Char
  | list => ']'
  | object => '\x7d'

/-- The fault of a text that ends inside the bracket. -/
def unended : Bracket → Fault
  | list => .unendedList
  | object => .unendedObject

/-- The fault of a value that is followed by neither a comma nor the closing bracket. -/
def noSeparator : Bracket → Fault
  | list => .noListSeparator
  | object => .noObjectSeparator

end Bracket

/-- Passes a single value that opens no bracket, or reports the bracket that it opens. -/
def skipAtom (cs : List Char) : Except Fault (Option Bracket × List Char) :=
  let done (r : Except Fault (Unit × List Char)) : Except Fault (Option Bracket × List Char) :=
    r.map fun (_, rest) => (none, rest)
  match skipBlanks cs with
  | [] => .error .unendedValue
  | 'n' :: rest => done (readWord "ull".toList rest)
  | 't' :: rest => done (readWord "rue".toList rest)
  | 'f' :: rest => done (readWord "alse".toList rest)
  | '"' :: rest => done (skipText rest)
  | '[' :: rest => .ok (some .list, rest)
  | '\x7b' :: rest => .ok (some .object, rest)
  | '-' :: rest => done (skipNumber rest)
  | c :: rest => if c.isDigit then done (skipNumber (c :: rest)) else .error .noValue

/-- Passes closing brackets up to the next value, or to the end of the outermost one. `afterValue`
    says whether a value stands directly before. -/
def skipClosing (afterValue : Bool) :
    List Bracket → List Char → Except Fault (List Bracket × List Char)
  | [], cs => .ok ([], cs)
  | b :: bs, cs =>
    match skipBlanks cs with
    | [] => .error b.unended
    | c :: rest =>
      if c = ',' ∧ afterValue then .ok (b :: bs, rest)
      else if c = b.close then skipClosing true bs rest
      else if afterValue then .error b.noSeparator
      else .ok (b :: bs, c :: rest)

/-- Passes values until no bracket is open any more. -/
def skipOpen : Nat → List Bracket → Reader Unit
  | 0, _, _ => .error .unendedValue
  | fuel + 1, outer, cs => do
    let (bracket?, rest) ← skipAtom cs
    let (still, rest) ← match bracket? with
      | some b => skipClosing false (b :: outer) rest
      | none => skipClosing true outer rest
    match still with
    | [] => .ok ((), rest)
    | .list :: _ => skipOpen fuel still rest
    | .object :: _ => do
      let rest ← skipKey rest
      skipOpen fuel still rest

/-- Passes one value. -/
def skipValue : Reader Unit := fun cs => skipOpen (cs.length + 1) [] cs

/-! ### Values of the wrong type -/

/-- The fault of the value at the beginning, where one of another type is wanted. The value is read
    as far as the message tells it. -/
def refuse (wanted : String) (cs : List Char) : Fault :=
  let fault {α : Type} (r : Except Fault (α × List Char)) (found : α → Found) : Fault :=
    match r with
    | .ok (a, _) => .wrongType (found a) wanted
    | .error f => f
  match skipBlanks cs with
  | [] => .unendedValue
  | 'n' :: rest => fault (readWord "ull".toList rest) fun _ => .null
  | 't' :: rest => fault (readWord "rue".toList rest) fun _ => .bool true
  | 'f' :: rest => fault (readWord "alse".toList rest) fun _ => .bool false
  | '"' :: rest => fault (readText rest) .text
  | '[' :: _ => .wrongType .sequence wanted
  | '\x7b' :: _ => .wrongType .map wanted
  | '-' :: rest => fault (readNumber true rest) Number.found
  | c :: rest =>
    if c.isDigit then fault (readNumber false (c :: rest)) Number.found else .noValue

end QueryBook.Json
