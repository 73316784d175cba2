import QueryBook.Xml.Tag

namespace QueryBook.Xml

/-!
# The markup of a document

A document is read as a row of events; what is inside tags and texts is left as it stands.

* `Event` — an opening, an empty and a closing tag, text, character data, and the rest, which says
  nothing.
* `nextEvent` — the first event of what is left. Closing tags are checked against the open elements.
* `readEvents` — all events up to the end of the document or to the first fault.
-/

/-- A piece of a document. -/
inductive Event where
  | opening (tag : Tag)
  /-- A tag that opens and closes its element. -/
  | empty (tag : Tag)
  | closing (name : List Char)
  | text (raw : List Char)
  | cdata (chars : List Char)
  /-- A comment, a processing instruction or a document type. -/
  | silent
deriving DecidableEq, Repr

/-- What comes first in the rest of a document: an event and the names of the elements that are open
    behind it, innermost first, or a fault. Both come with what is left then. -/
inductive Step where
  | finished
  | event (event : Event) (opened : List (List Char)) (rest : List Char)
  | fault (fault : MarkupFault) (rest : List Char)
deriving DecidableEq, Repr

/-! ### Tags -/

/-- The content of a tag and what follows its bracket. A bracket between quotes does not close. -/
def takeTag (quote : Option Char) : List Char → Option (List Char × List Char)
  | [] => none
  | c :: cs =>
    if quote = none ∧ c = '>' then some ([], cs)
    else
      let inside :=
        if quote = some c then none
        else if quote = none ∧ (c = '"' ∨ c = '\'') then some c
        else quote
      (takeTag inside cs).map fun (content, rest) => (c :: content, rest)

/-- The event of an opening tag, or of an empty one, which ends in a slash. -/
def openTag (content : List Char) (opened : List (List Char)) (rest : List Char) : Step :=
  if content.getLast? = some '/' then .event (.empty ⟨content.dropLast⟩) opened rest
  else .event (.opening ⟨content⟩) ((Tag.mk content).name :: opened) rest

/-- The name in a closing tag: without the blanks at its end, unless it is all blanks. -/
def closingName (content : List Char) : List Char :=
  if content.all isSpace then content
  else (content.reverse.dropWhile isSpace).reverse

/-- The event of a closing tag, which must name the innermost open element. -/
def closeTag (content : List Char) (opened : List (List Char)) (rest : List Char) : Step :=
  let name := closingName content
  match opened with
  | [] => .fault (.closesNothing (String.ofList name)) rest
  | innermost :: outer =>
    if name = innermost then .event (.closing name) outer rest
    else .fault (.closesOther (String.ofList innermost) (String.ofList name)) rest

/-! ### Other markup -/

/-- A comment behind its exclamation mark: a second dash must follow the first one. -/
def readComment (opened : List (List Char)) (cs : List Char) : Step :=
  -- The two dashes of the opening do not count for the end: `<!-->` is still open.
  match Text.breakOn? ['-', '-', '>'] (cs.drop 2) with
  | none => .fault .commentUnended []
  | some (_, rest) =>
    if (cs.drop 1).head? = some '-' then .event .silent opened rest
    else .fault .commentUnended rest

/-- Character data behind its exclamation mark. -/
def readCData (opened : List (List Char)) (cs : List Char) : Step :=
  match Text.breakOn? [']', ']', '>'] (cs.drop 1) with
  | none => .fault .cdataUnended []
  | some (body, rest) =>
    match Text.stripStart? ['C', 'D', 'A', 'T', 'A', '['] body with
    | some chars => .event (.cdata chars) opened rest
    | none => .fault .cdataUnended rest

/-- The content of a document type and what follows its bracket; brackets inside it are balanced. -/
def takeBalanced (depth : Nat) : List Char → Option (List Char × List Char)
  | [] => none
  | c :: cs =>
    if c = '>' then
      match depth with
      | 0 => some ([], cs)
      | depth + 1 => (takeBalanced depth cs).map fun (content, rest) => (c :: content, rest)
    else
      let depth := if c = '<' then depth + 1 else depth
      (takeBalanced depth cs).map fun (content, rest) => (c :: content, rest)

/-- A document type behind its exclamation mark: the word in any case, and a name. -/
def readDoctype (opened : List (List Char)) (cs : List Char) : Step :=
  match takeBalanced 0 cs with
  | none => .fault .doctypeUnended []
  | some (content, rest) =>
    -- The word is looked at only when the end is found.
    if (content.take 7).map Char.toUpper ≠ ['D', 'O', 'C', 'T', 'Y', 'P', 'E'] then
      .fault .doctypeUnended rest
    else if (content.drop 7).all isSpace then .fault .doctypeUnnamed rest
    else .event .silent opened rest

/-- A processing instruction behind its opening bracket; its two question marks are distinct. -/
def readInstruction (opened : List (List Char)) (cs : List Char) : Step :=
  match Text.breakOn? ['?', '>'] cs with
  | none => .fault .instructionUnended []
  -- The two question marks would be one and the same.
  | some ([], rest) => .fault .instructionUnended rest
  | some (_ :: _, rest) => .event .silent opened rest

/-- Markup behind its opening bracket. -/
def readMarkup (opened : List (List Char)) (cs : List Char) : Step :=
  match cs with
  | [] => .fault .tagUnended []
  | '!' :: rest =>
    match rest.head? with
    | some '-' => readComment opened rest
    | some '[' => readCData opened rest
    | some 'D' | some 'd' => readDoctype opened rest
    | _ => .fault .unknownMarkup cs
  | '?' :: _ => readInstruction opened cs
  | '/' :: rest =>
    match takeTag none rest with
    | none => .fault .tagUnended []
    | some (content, rest) => closeTag content opened rest
  | _ =>
    match takeTag none cs with
    | none => .fault .tagUnended []
    | some (content, rest) => openTag content opened rest

/-- The first event of what is left of a document. -/
def nextEvent (opened : List (List Char)) : List Char → Step
  | [] => .finished
  | '<' :: cs => readMarkup opened cs
  | cs => .event (.text (cs.takeWhile (· != '<'))) opened (cs.dropWhile (· != '<'))

/-! ### What is left becomes shorter -/

/-- Behind a tag less is left. -/
theorem takeTag_length_lt {quote : Option Char} {cs content rest : List Char}
    (h : takeTag quote cs = some (content, rest)) : rest.length < cs.length := by
  induction cs generalizing quote content with
  | nil => simp [takeTag] at h
  | cons c cs ih =>
    simp only [takeTag] at h
    split at h
    · simp only [Option.some.injEq, Prod.mk.injEq] at h
      simp [← h.2]
    · simp only [Option.map_eq_some_iff, Prod.mk.injEq] at h
      obtain ⟨⟨content', rest'⟩, hr, -, rfl⟩ := h
      exact Nat.lt_succ_of_lt (ih hr)

/-- Behind a closing bracket less is left. -/
theorem takeBalanced_length_lt {depth : Nat} {cs content rest : List Char}
    (h : takeBalanced depth cs = some (content, rest)) : rest.length < cs.length := by
  induction cs generalizing depth content with
  | nil => simp [takeBalanced] at h
  | cons c cs ih =>
    simp only [takeBalanced] at h
    split at h
    · split at h
      · simp only [Option.some.injEq, Prod.mk.injEq] at h
        simp [← h.2]
      · simp only [Option.map_eq_some_iff, Prod.mk.injEq] at h
        obtain ⟨⟨content', rest'⟩, hr, -, rfl⟩ := h
        exact Nat.lt_succ_of_lt (ih hr)
    · simp only [Option.map_eq_some_iff, Prod.mk.injEq] at h
      obtain ⟨⟨content', rest'⟩, hr, -, rfl⟩ := h
      exact Nat.lt_succ_of_lt (ih hr)

section

variable {opened opened' : List (List Char)} {cs rest : List Char} {event : Event}

/-- What is left behind a broken text is no longer than the text it was taken from. -/
theorem length_le_of_breakOn?_drop {pattern before : List Char} {n : Nat}
    (h : Text.breakOn? pattern (cs.drop n) = some (before, rest)) : rest.length ≤ cs.length := by
  have hle := Text.breakOn?_length_le h
  rw [List.length_drop] at hle
  omega

theorem openTag_rest {content after : List Char}
    (h : openTag content opened after = .event event opened' rest) : rest = after := by
  unfold openTag at h
  split at h
  · exact (Step.event.inj h).2.2.symm
  · exact (Step.event.inj h).2.2.symm

theorem closeTag_rest {content after : List Char}
    (h : closeTag content opened after = .event event opened' rest) : rest = after := by
  simp only [closeTag] at h
  split at h
  · exact Step.noConfusion h
  · split at h
    · exact (Step.event.inj h).2.2.symm
    · exact Step.noConfusion h

theorem readComment_length_le (h : readComment opened cs = .event event opened' rest) :
    rest.length ≤ cs.length := by
  unfold readComment at h
  split at h
  · exact Step.noConfusion h
  · next hb =>
    split at h
    · rw [← (Step.event.inj h).2.2]
      exact length_le_of_breakOn?_drop hb
    · exact Step.noConfusion h

theorem readCData_length_le (h : readCData opened cs = .event event opened' rest) :
    rest.length ≤ cs.length := by
  unfold readCData at h
  split at h
  · exact Step.noConfusion h
  · next hb =>
    split at h
    · rw [← (Step.event.inj h).2.2]
      exact length_le_of_breakOn?_drop hb
    · exact Step.noConfusion h

theorem readDoctype_length_le (h : readDoctype opened cs = .event event opened' rest) :
    rest.length ≤ cs.length := by
  unfold readDoctype at h
  split at h
  · exact Step.noConfusion h
  · next hb =>
    split at h
    · exact Step.noConfusion h
    · split at h
      · exact Step.noConfusion h
      · rw [← (Step.event.inj h).2.2]
        exact Nat.le_of_lt (takeBalanced_length_lt hb)

theorem readInstruction_length_le (h : readInstruction opened cs = .event event opened' rest) :
    rest.length ≤ cs.length := by
  unfold readInstruction at h
  split at h
  · exact Step.noConfusion h
  · exact Step.noConfusion h
  · next hb =>
    have hle := Text.breakOn?_length_le hb
    rw [← (Step.event.inj h).2.2]
    exact Nat.le_of_add_right_le hle

theorem readMarkup_length_le (h : readMarkup opened cs = .event event opened' rest) :
    rest.length ≤ cs.length := by
  unfold readMarkup at h
  split at h
  · exact Step.noConfusion h
  · next after =>
    refine Nat.le_succ_of_le (m := after.length) ?_
    split at h
    · exact readComment_length_le h
    · exact readCData_length_le h
    · exact readDoctype_length_le h
    · exact readDoctype_length_le h
    · exact Step.noConfusion h
  · exact readInstruction_length_le h
  · split at h
    · exact Step.noConfusion h
    · next ht =>
      rw [closeTag_rest h]
      exact Nat.le_succ_of_le (Nat.le_of_lt (takeTag_length_lt ht))
  · split at h
    · exact Step.noConfusion h
    · next ht =>
      rw [openTag_rest h]
      exact Nat.le_of_lt (takeTag_length_lt ht)

end

/-- Every event takes some characters. -/
theorem nextEvent_length_lt {opened opened' : List (List Char)} {cs rest : List Char}
    {event : Event} (h : nextEvent opened cs = .event event opened' rest) :
    rest.length < cs.length := by
  unfold nextEvent at h
  split at h
  · simp at h
  · next ds => exact Nat.lt_succ_of_le (readMarkup_length_le h)
  · next hnil hlt =>
    simp only [Step.event.injEq] at h
    cases cs with
    | nil => exact absurd rfl hnil
    | cons c cs =>
      have hc : c ≠ '<' := fun hc => hlt cs (by rw [hc])
      have := Text.length_dropWhile_le (· != '<') cs
      rw [← h.2.2]
      simp [hc]
      omega

/-! ### All events -/

/-- The events of a document, and what is wrong with it, with what is left behind the fault. -/
structure Events where
  events : List Event
  fault : Option (MarkupFault × List Char)
deriving DecidableEq, Repr

/-- The events of what is left of a document while some elements are open. -/
def readEventsFrom (opened : List (List Char)) (cs : List Char) : Events :=
  match h : nextEvent opened cs with
  | .finished => ⟨[], none⟩
  | .fault fault rest => ⟨[], some (fault, rest)⟩
  | .event event opened rest =>
    have := nextEvent_length_lt h
    let more := readEventsFrom opened rest
    ⟨event :: more.events, more.fault⟩
termination_by cs.length

/-- A document without the mark that may stand at its beginning. -/
def withoutMark (cs : List Char) : List Char :=
  match cs with
  | '\ufeff' :: rest => rest
  | _ => cs

/-- The events of a document. -/
def readEvents (cs : List Char) : Events := readEventsFrom [] (withoutMark cs)

end QueryBook.Xml
