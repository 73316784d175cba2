import QueryBook.Text.Split

namespace QueryBook.Files

/-!
# Paths

A path is kept as it is written. Two ways of writing one path have the same parts.

* `Part`, `FilePath.parts` — the parts of a path: empty parts count for nothing, and neither does a
  dot that is not the first part.
* `FilePath.join` — the path of an entry of a directory.
* `Part.lt`, `Location.le` — the order of paths: part by part, names by their characters.
* `hasXmlExtension` — whether a name ends in `.xml`, without regard to case.
-/

/-- A part of a path. -/
inductive Part where
  | root
  | current
  | parent
  | name (s : String)
deriving DecidableEq, Repr

/-- A path, as it is written. -/
structure FilePath where
  text : String
deriving DecidableEq, Repr

/-- Where a path leads, however it is written. -/
abbrev Location := List Part

namespace FilePath

/-- What a piece between two slashes stands for. -/
def part? (piece : List Char) : Option Part :=
  if piece = [] ∨ piece = ['.'] then none
  else if piece = ['.', '.'] then some .parent
  else some (.name (String.ofList piece))

/-- The parts of a path. -/
def parts (p : FilePath) : Location :=
  let pieces := Text.splitChar '/' p.text.toList
  let first : Location :=
    if p.text.toList.head? = some '/' then [.root]
    -- A dot counts only where a path begins with it.
    else if pieces.head? = some ['.'] then [.current]
    else []
  first ++ pieces.filterMap part?

/-- The path of an entry of a directory. -/
def join (p : FilePath) (name : String) : FilePath :=
  let last := p.text.toList.getLast?
  if last = none ∨ last = some '/' then ⟨p.text ++ name⟩ else ⟨p.text ++ "/" ++ name⟩

end FilePath

/-! ### Order -/

namespace Part

/-- Names come after the other parts. -/
def rank : Part → Nat
  | root => 0
  | current => 1
  | parent => 2
  | name _ => 3

/-- The characters of a name. -/
def label : Part → String
  | name s => s
  | _ => ""

/-- The order of parts: by rank, names by their characters. -/
def lt (a b : Part) : Bool := a.rank < b.rank || (a.rank == b.rank && a.label < b.label)

end Part

/-- The order of paths, part by part; a path comes before those that go on from it. -/
def Location.le : Location → Location → Bool
  | [], _ => true
  | _ :: _, [] => false
  | a :: as, b :: bs => a.lt b || (a == b && Location.le as bs)

/-- Whether a name has the extension `xml` in any case: a last point, with something before it and
    those three letters behind it. -/
def hasXmlExtension (name : String) : Bool :=
  let backwards := name.toList.reverse
  (backwards.take 4).map Char.toLower == ['l', 'm', 'x', '.'] && 4 < backwards.length

end QueryBook.Files
