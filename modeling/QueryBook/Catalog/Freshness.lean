import QueryBook.Dictionary
import QueryBook.Files.Tree

namespace QueryBook

open Files (Location Signature)

/-!
# Freshness

* `Freshness` — for each file that was loaded, what it looked like then.
* `Freshness.isLatest` — whether a file still looks like that.

Main statements: a record is read back until it is forgotten (`isLatest_record`,
`isLatest_forget`).
-/

/-- What the loaded files looked like. -/
abbrev Freshness := Dictionary Location Signature

namespace Freshness

/-- Whether a file was loaded with exactly this signature. -/
def isLatest (f : Freshness) (file : Location) (s : Signature) : Bool := f.get? file == some s

/-- Notes that a file was loaded. -/
def record (f : Freshness) (file : Location) (s : Signature) : Freshness := f.insert file s

/-- Drops the note of a file. -/
def forget (f : Freshness) (file : Location) : Freshness := f.erase file

/-- What was recorded is the latest, and nothing else changes for other files. -/
theorem isLatest_record (f : Freshness) (file file' : Location) (s s' : Signature) :
    (f.record file s).isLatest file' s' =
      if file = file' then s == s' else f.isLatest file' s' := by
  by_cases h : file = file' <;> simp [isLatest, record, h]

/-- A forgotten file is not the latest. -/
theorem isLatest_forget (f : Freshness) (file file' : Location) (s : Signature) :
    (f.forget file).isLatest file' s = if file = file' then false else f.isLatest file' s := by
  by_cases h : file = file' <;> simp [isLatest, forget, h]

end Freshness

end QueryBook
