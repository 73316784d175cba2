namespace QueryBook.Xml

/-!
# What can be wrong with a template document

* `MarkupFault` — a construct that is not closed, unknown, or does not fit the open elements.
* `AttributeFault`, `EntityFault`, `CharacterFault` — faults inside a tag and inside a text.
* `DocumentFault` — all of them, and what a definition must not lack.
* `DocumentFault.message` — the wording.
-/

/-- A fault of a document's markup. -/
inductive MarkupFault where
  | commentUnended
  | cdataUnended
  | doctypeUnended
  | instructionUnended
  | tagUnended
  | unknownMarkup
  | doctypeUnnamed
  /-- A closing tag for another element than the innermost open one. -/
  | closesOther (opened closed : String)
  /-- A closing tag while no element is open. -/
  | closesNothing (closed : String)
deriving DecidableEq, Repr

/-- A fault of a tag's attributes, with the byte behind the opening bracket where it shows. -/
inductive AttributeFault where
  | keyAlone (position : Nat)
  | noValue (position : Nat)
  | valueUnquoted (position : Nat)
  | valueUnended (position : Nat) (quote : Char)
deriving DecidableEq, Repr

/-- A fault of a character given by its number. -/
inductive CharacterFault where
  | sign
  | noDigits
  | badDigit
  | tooLarge
  | zero
  | noCharacter (code : Nat)
deriving DecidableEq, Repr

/-- A fault of an entity in a text, with bytes of that text. -/
inductive EntityFault where
  | unknown (start stop : Nat) (name : String)
  | unended (start stop : Nat)
  | character (fault : CharacterFault)
deriving DecidableEq, Repr

/-- Why no definitions are read from a document. -/
inductive DocumentFault where
  | markup (fault : MarkupFault) (byte : Nat)
  | attribute (fault : AttributeFault)
  | entity (fault : EntityFault)
  | noType (name : String)
  | unsupportedType (name tag : String)
  | unclosed (elements : Nat)
deriving DecidableEq, Repr

/-! ### Wording -/

/-- The wording of a fault of markup. -/
def MarkupFault.message : MarkupFault → String
  | .commentUnended => "syntax error: comment not closed: `-->` not found before end of input"
  | .cdataUnended => "syntax error: CDATA not closed: `]]>` not found before end of input"
  | .doctypeUnended => "syntax error: DOCTYPE not closed: `>` not found before end of input"
  | .instructionUnended =>
    "syntax error: processing instruction or xml declaration not closed: `?>` not found " ++
      "before end of input"
  | .tagUnended => "syntax error: tag not closed: `>` not found before end of input"
  | .unknownMarkup => "syntax error: unknown or missed symbol in markup"
  | .doctypeUnnamed =>
    "ill-formed document: `<!DOCTYPE>` declaration does not contain a name of a document type"
  | .closesOther opened closed =>
    "ill-formed document: expected `</" ++ opened ++ ">`, but `</" ++ closed ++ ">` was found"
  | .closesNothing closed =>
    "ill-formed document: close tag `</" ++ closed ++ ">` does not match any open tag"

/-- The wording of a fault of attributes. -/
def AttributeFault.message : AttributeFault → String
  | .keyAlone p =>
    "position " ++ p.repr ++ ": attribute key must be directly followed by `=` or space"
  | .noValue p => "position " ++ p.repr ++ ": `=` must be followed by an attribute value"
  | .valueUnquoted p =>
    "position " ++ p.repr ++ ": attribute value must be enclosed in `\"` or `'`"
  | .valueUnended p quote =>
    "position " ++ p.repr ++ ": missing closing quote `" ++ String.singleton quote ++
      "` in attribute value"

/-- The wording of a fault of a character given by its number. -/
def CharacterFault.message : CharacterFault → String
  | .sign => "unexpected number sign"
  | .noDigits => "cannot parse integer from empty string"
  | .badDigit => "invalid digit found in string"
  | .tooLarge => "number too large to fit in target type"
  | .zero => "0x0 character is not permitted in XML"
  | .noCharacter code => "`" ++ code.repr ++ "` is not a valid codepoint"

/-- The wording of a fault of an entity. -/
def EntityFault.message : EntityFault → String
  | .unknown start stop name =>
    "at " ++ start.repr ++ ".." ++ stop.repr ++ ": unrecognized entity `" ++ name ++ "`"
  | .unended start stop =>
    "Error while escaping character at range " ++ start.repr ++ ".." ++ stop.repr ++
      ": Cannot find ';' after '&'"
  | .character fault => "invalid character reference: " ++ fault.message

/-- The wording of a document's fault. -/
def DocumentFault.message : DocumentFault → String
  | .markup fault byte => fault.message ++ " (at byte " ++ byte.repr ++ ")"
  | .attribute fault => fault.message
  | .entity fault => fault.message
  | .noType name => "SqlDefinition of `" ++ name ++ "` has no type attribute"
  | .unsupportedType name tag =>
    "SqlDefinition of `" ++ name ++ "` has unsupported type `" ++ tag ++ "`"
  | .unclosed elements =>
    "unexpected end of document: " ++ elements.repr ++ " unclosed element(s)"

end QueryBook.Xml
