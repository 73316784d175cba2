import QueryBook.Xml.Entity

namespace QueryBook.Xml

/-!
# Tags

* `Tag` — what stands between the brackets of an opening tag.
* `Tag.name`, `Tag.localName` — its name, with and without a qualifier.
* `Tag.attribute?` — the value of an attribute. Attributes are read from left to right up to the
  wanted one, so that later faults do not show.
-/

/-- The blanks inside markup. -/
def isSpace (c : Char) : Bool := c == ' ' || c == '\t' || c == '\r' || c == '\n'

/-- The characters between the brackets of a tag. -/
structure Tag where
  content : List Char
deriving DecidableEq, Repr

namespace Tag

/-- The name with its qualifier. -/
def name (t : Tag) : List Char := t.content.takeWhile (!isSpace ·)

/-- The name behind the first colon. -/
def localName (t : Tag) : List Char :=
  match Text.cutAtChar? ':' t.name with
  | some (_, rest) => rest
  | none => t.name

end Tag

/-- The value behind an equals sign, and what follows it. `total` is the length of the tag. -/
def readAttributeValue (total : Nat) (cs : List Char) :
    Except AttributeFault (List Char × List Char) :=
  match cs.dropWhile isSpace with
  | [] => .error (.noValue total)
  | quote :: rest =>
    if quote = '"' ∨ quote = '\'' then
      match Text.cutAtChar? quote rest with
      | some r => .ok r
      | none => .error (.valueUnended total quote)
    else .error (.valueUnquoted (total - Text.utf8Length (quote :: rest)))

/-- The characters of a key behind its first one. -/
def isKeyChar (c : Char) : Bool := c != '=' && !isSpace c

/-- The next attribute, key and value, and what follows it. The first character of a key may be any
    one, even an equals sign. -/
def readAttribute? (total : Nat) (cs : List Char) :
    Except AttributeFault (Option (List Char × List Char × List Char)) :=
  match cs.dropWhile isSpace with
  | [] => .ok none
  | first :: rest =>
    match (rest.dropWhile isKeyChar).dropWhile isSpace with
    | '=' :: behind =>
      (readAttributeValue total behind).map fun (value, after) =>
        some (first :: rest.takeWhile isKeyChar, value, after)
    | other => .error (.keyAlone (total - Text.utf8Length other))

/-- Behind a separator less is left. -/
theorem cutAtChar?_length_lt {sep : Char} {cs before rest : List Char}
    (h : Text.cutAtChar? sep cs = some (before, rest)) : rest.length < cs.length := by
  have hle := Text.length_dropWhile_le (· != sep) cs
  simp only [Text.cutAtChar?] at h
  split at h
  · simp at h
  · next hd =>
    simp only [Option.some.injEq, Prod.mk.injEq] at h
    rw [hd, h.2, List.length_cons] at hle
    exact hle

/-- Behind a value less is left. -/
theorem readAttributeValue_length_lt {total : Nat} {cs value rest : List Char}
    (h : readAttributeValue total cs = .ok (value, rest)) : rest.length < cs.length := by
  simp only [readAttributeValue] at h
  split at h
  · simp at h
  · next hd =>
    have hle := Text.length_dropWhile_le isSpace cs
    rw [hd, List.length_cons] at hle
    split at h
    · split at h
      · next hr =>
        simp only [Except.ok.injEq] at h
        subst h
        have := cutAtChar?_length_lt hr
        omega
      · simp at h
    · simp at h

/-- Behind an attribute less is left, so that the search for one ends. -/
theorem readAttribute?_length_lt {total : Nat} {cs key value rest : List Char}
    (h : readAttribute? total cs = .ok (some (key, value, rest))) : rest.length < cs.length := by
  simp only [readAttribute?] at h
  split at h
  · simp at h
  · next first more hd =>
    have hle := Text.length_dropWhile_le isSpace cs
    rw [hd, List.length_cons] at hle
    split at h
    · next behind hv =>
      have hk := Text.length_dropWhile_le isKeyChar more
      have hs := Text.length_dropWhile_le isSpace (more.dropWhile isKeyChar)
      rw [hv, List.length_cons] at hs
      cases hr : readAttributeValue total behind with
      | error f => simp [hr, Except.map] at h
      | ok r =>
        obtain ⟨v, after⟩ := r
        have := readAttributeValue_length_lt hr
        simp only [hr, Except.map, Except.ok.injEq, Option.some.injEq, Prod.mk.injEq] at h
        rw [← h.2.2]
        omega
    · simp at h

/-- The value of an attribute among the rest of a tag. -/
def findAttribute? (total : Nat) (wanted : List Char) (cs : List Char) :
    Except AttributeFault (Option (List Char)) :=
  match h : readAttribute? total cs with
  | .error fault => .error fault
  | .ok none => .ok none
  | .ok (some (key, value, rest)) =>
    have := readAttribute?_length_lt h
    -- Of two attributes of one name the first one counts.
    if key = wanted then .ok (some value) else findAttribute? total wanted rest
termination_by cs.length

/-- The value of an attribute, its entities replaced. -/
def Tag.attribute? (t : Tag) (wanted : String) : Except DocumentFault (Option String) :=
  match findAttribute? (Text.utf8Length t.content) wanted.toList
      (t.content.drop t.name.length) with
  | .error fault => .error (.attribute fault)
  | .ok none => .ok none
  | .ok (some raw) =>
    match expand raw with
    | .error fault => .error (.entity fault)
    | .ok value => .ok (some (String.ofList value))

end QueryBook.Xml
