import QueryBook.Template.Basic
import QueryBook.Xml.Markup

namespace QueryBook.Xml

/-!
# Template documents

A document's root holds entries with names. The `SqlDefinition` child of an entry gives a
definition; its query text stands in a `SqlCommand` child, or else directly in it.

* `Collector`, `Collector.take` — what is gathered while the events pass.
* `parseDocument` — the definitions of a document, in order, or its first fault.
-/

/-- The element that gives a definition. -/
def definitionName : List Char := "SqlDefinition".toList

/-- The element that holds a query text. -/
def commandName : List Char := "SqlCommand".toList

/-- An entry that is open, and the definition found in it. -/
structure Entry where
  name : String
  definition : Option Definition
deriving DecidableEq, Repr

/-- The element whose text is gathered. -/
inductive Target where
  | definition
  | command
deriving DecidableEq, Repr

/-- What has been gathered so far. -/
structure Collector where
  /-- The number of open elements. -/
  depth : Nat := 0
  entry : Option Entry := none
  target : Option Target := none
  definitionText : List Char := []
  commandText : Option (List Char) := none
  found : List Definition := []
deriving DecidableEq, Repr

/-- The name of an entry, unless it is blank. -/
def entryName? (tag : Tag) : Except DocumentFault (Option String) := do
  .ok ((← tag.attribute? "name").filter fun name => !Text.isBlank name)

/-- The definition that the attributes of an element give; its query text is still missing. -/
def definitionOf (name : String) (tag : Tag) : Except DocumentFault Definition := do
  match ← tag.attribute? "type" with
  | none => .error (.noType name)
  | some word =>
    match Dialect.parse? word with
    | none => .error (.unsupportedType name word)
    | some dialect =>
      let connection ← tag.attribute? "ConnStringName"
      let assembly ← tag.attribute? "Assembly"
      let className ← tag.attribute? "ModelClassName"
      .ok { name, dialect, connection, assembly, className, sql := "" }

namespace Collector

/-- Appends to the text that is gathered. -/
def append (s : Collector) (target : Target) (chars : List Char) : Collector :=
  match target with
  | .definition => { s with definitionText := s.definitionText ++ chars }
  | .command => { s with commandText := s.commandText.map (· ++ chars) }

/-- Takes the definition of an element into the open entry. -/
def define (s : Collector) (tag : Tag) : Except DocumentFault Collector :=
  match s.entry with
  | none => .ok s
  | some e => do
    let d ← definitionOf e.name tag
    .ok { s with entry := some { e with definition := some d } }

/-- Takes an opening tag. -/
def takeOpening (s : Collector) (tag : Tag) : Except DocumentFault Collector :=
  let s := { s with depth := s.depth + 1 }
  -- Only the children of the root are entries.
  if s.depth = 2 then do
    let name? ← entryName? tag
    .ok { s with entry := name?.map fun name => ⟨name, none⟩ }
  else if s.depth = 3 ∧ s.entry.isSome ∧ tag.localName = definitionName then do
    let s ← s.define tag
    .ok { s with definitionText := [], commandText := none, target := some .definition }
  else if s.depth = 4 ∧ s.target = some .definition ∧ tag.localName = commandName then
    .ok { s with commandText := some [], target := some .command }
  else .ok s

/-- Takes an empty tag. -/
def takeEmpty (s : Collector) (tag : Tag) : Except DocumentFault Collector :=
  if s.depth = 2 ∧ tag.localName = definitionName then s.define tag
  else if s.depth = 1 then do
    let _ ← entryName? tag
    .ok s
  else .ok s

/-- The definition of the open entry with the text that was gathered. -/
def closeDefinition (s : Collector) : Collector :=
  let sql := String.ofList (Text.trimChars (s.commandText.getD s.definitionText))
  { s with
    entry := s.entry.map fun e => { e with definition := e.definition.map ({ · with sql }) }
    commandText := none
    target := none }

/-- Takes a closing tag. -/
def takeClosing (s : Collector) (name : List Char) : Collector :=
  let closed :=
    if s.depth = 2 then
      { s with found := s.found ++ (s.entry.bind Entry.definition).toList, entry := none }
    else if s.depth = 3 ∧ s.target.isSome ∧ (Tag.mk name).localName = definitionName then
      s.closeDefinition
    else if s.depth = 4 ∧ s.target = some .command then
      { s with target := some .definition }
    else s
  -- Lowered last: the cases above count the element that is closed.
  { closed with depth := s.depth - 1 }

/-- Takes text or character data. -/
def takeText (s : Collector) (chars : List Char) : Collector :=
  match s.target with
  | some target => s.append target chars
  | none => s

/-- Takes one event. Entities count only in a text that is gathered. -/
def take (s : Collector) : Event → Except DocumentFault Collector
  | .opening tag => s.takeOpening tag
  | .empty tag => s.takeEmpty tag
  | .closing name => .ok (s.takeClosing name)
  | .text raw =>
    if s.target.isNone then .ok s
    else
      match expand raw with
      | .error fault => .error (.entity fault)
      | .ok chars => .ok (s.takeText chars)
  | .cdata chars => .ok (s.takeText chars)
  | .silent => .ok s

end Collector

/-- The definitions of a document, in order. -/
def parseDocument (text : String) : Except DocumentFault (List Definition) := do
  let read := readEvents text.toList
  let s ← read.events.foldlM Collector.take {}
  match read.fault with
  | some (fault, rest) =>
    .error (.markup fault
      (Text.utf8Length (withoutMark text.toList) - Text.utf8Length rest))
  | none => if s.depth = 0 then .ok s.found else .error (.unclosed s.depth)

end QueryBook.Xml
