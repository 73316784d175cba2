import QueryBook.Dictionary
import QueryBook.Value

namespace QueryBook

/-!
# Parameters

The values given for one call, by name. Names differ by case.

* `Parameters.isPresent` — a name with a value that is not blank.
* `Parameters.connectionPrefix?` — the value of the one name that routes a call and is never bound.
* `Parameters.subset` — the entries of some names.

Main statement: what a subset holds (`get?_subset`).
-/

/-- The values of a call. -/
abbrev Parameters := Dictionary String Value

/-- The name whose value goes before the name of the connection. -/
def connectionPrefixName : String := "ConnectionPrefix"

namespace Parameters

/-- Whether a name has a value that is neither null nor blank text. -/
def isPresent (p : Parameters) (name : String) : Bool := (p.get? name).any (!·.isBlank)

/-- Whether all names have such a value. -/
def allPresent (p : Parameters) (names : List String) : Bool := names.all p.isPresent

/-- The text that goes before the name of the connection. -/
def connectionPrefix? (p : Parameters) : Option String :=
  match p.get? connectionPrefixName with
  | some v => if v.isNull then none else v.literal?
  | none => none

/-- The entries of some names, without the one that routes the call. -/
def subset (p : Parameters) (names : List String) : Parameters :=
  names.foldl (fun out name => step p out name) Dictionary.empty
where
  /-- Takes over the entry of one name. -/
  step (p out : Parameters) (name : String) : Parameters :=
    if name = connectionPrefixName then out
    else
      match p.get? name with
      | some v => out.insert name v
      | none => out

/-- What a row of names adds to a subset, one by one. -/
private theorem get?_foldl_step (p out : Parameters) (names : List String) (name : String) :
    (names.foldl (fun out name => subset.step p out name) out).get? name =
      if name ∈ names ∧ name ≠ connectionPrefixName ∧ (p.get? name).isSome then p.get? name
      else out.get? name := by
  induction names generalizing out with
  | nil => simp
  | cons n ns ih =>
    rw [List.foldl_cons, ih]
    by_cases hp : n = connectionPrefixName
    · grind [subset.step]
    · cases hv : p.get? n with
      | none => grind [subset.step]
      | some v => grind [subset.step, Dictionary.get?_insert]

/-- A subset holds the value of each of its names, except the name that routes the call. -/
theorem get?_subset (p : Parameters) (names : List String) (name : String) :
    (p.subset names).get? name =
      if name ∈ names ∧ name ≠ connectionPrefixName then p.get? name else none := by
  rw [subset, get?_foldl_step, Dictionary.get?_empty]
  cases h : p.get? name <;> simp

end Parameters

end QueryBook
