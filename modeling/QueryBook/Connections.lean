import QueryBook.Dictionary
import QueryBook.Error
import QueryBook.Text.LowerCase

namespace QueryBook

/-!
# Connection strings

* `Connections` — connection strings by name. Blanks around a name and the case of ASCII letters do
  not count.
* `Connections.lookup` — the string of a name; a blank one counts as an error.

Main statement: names that differ only in what does not count are one entry (`get?_insert`).
-/

/-- Connection strings by name. -/
structure Connections where
  entries : Dictionary String String := .empty

namespace Connections

/-- The part of a name that counts. -/
def normalize (name : String) : String := Text.asciiLowercase (Text.trim name)

/-- The string of a name, blank or not. -/
def get? (c : Connections) (name : String) : Option String := c.entries.get? (normalize name)

/-- Whether a name has an entry. -/
def contains (c : Connections) (name : String) : Bool := (c.get? name).isSome

/-- The number of entries. -/
def size (c : Connections) : Nat := c.entries.size

/-- Writes the entry of a name. -/
def insert (c : Connections) (name value : String) : Connections :=
  ⟨c.entries.insert (normalize name) value⟩

/-- Removes the entry of a name. -/
def erase (c : Connections) (name : String) : Connections := ⟨c.entries.erase (normalize name)⟩

/-- Entries written one after another. -/
def ofList (entries : List (String × String)) : Connections :=
  entries.foldl (fun c e => c.insert e.1 e.2) {}

/-- The string of a name. -/
def lookup (c : Connections) (name : String) : Except Error String :=
  match c.get? name with
  | some value => if Text.isBlank value then .error (.blankConnection name) else .ok value
  | none => .error (.unknownConnection name)

/-- A write is read back under every name that counts as the same. -/
@[simp] theorem get?_insert (c : Connections) (name name' value : String) :
    (c.insert name value).get? name' =
      if normalize name = normalize name' then some value else c.get? name' := by
  simp [get?, insert]

end Connections

end QueryBook
