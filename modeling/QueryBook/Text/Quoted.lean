import QueryBook.Text.Invisible

namespace QueryBook.Text

/-!
# Quoted texts

How a text is shown inside a message: between double quotes, on one line, with an escape for
everything that would not show.

* `quotedChar`, `quoted` — the escape of one character and the quoted text.
-/

/-- One character between quotes. -/
def quotedChar (c : Char) : List Char :=
  if c = '"' then ['\\', '"']
  else if c = '\\' then ['\\', '\\']
  else if c = '\n' then ['\\', 'n']
  else if c = '\r' then ['\\', 'r']
  else if c = '\t' then ['\\', 't']
  else if c = '\x00' then ['\\', '0']
  else if c.toNat < 0x20 || c.toNat = 0x7F || (0x80 ≤ c.toNat && isInvisible c) then
    '\\' :: 'u' :: '\x7b' :: (Nat.toDigits 16 c.toNat ++ ['\x7d'])
  else [c]

/-- A text between quotes. -/
def quoted (s : String) : String :=
  String.ofList ('"' :: (s.toList.flatMap quotedChar ++ ['"']))

end QueryBook.Text
