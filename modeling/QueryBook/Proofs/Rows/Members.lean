import QueryBook.Rows

namespace QueryBook

/-!
# The values under one name

Columns may share a name, as those of a join do, and a row may have fewer values than names, or
more. Whatever stands under a name, reading by name gives the first value and the object of the row
holds the last one.

* `Row.valuesOf` — the values that stand under a name.
* `Row.get?_eq_head?`, `Row.member?_toJson` — the two ways to read them.
* `Row.member?_toJson_eq_iff` — when they agree; `Row.exists_member?_ne` is a row on which they do
  not.
-/

namespace Json

/-- Of the members that are written one after another the last one of a name is kept. -/
theorem lookup?_foldl_insertMember (name : String) (ms acc : List (String × Json)) :
    lookup? name (ms.foldl (fun ms m => insertMember m.1 m.2 ms) acc) =
      ((ms.filter fun m => m.1 == name).map Prod.snd).getLast?.or (lookup? name acc) := by
  induction ms generalizing acc with
  | nil => rfl
  | cons m ms ih =>
    rw [List.foldl_cons, ih, lookup?_insertMember, List.filter_cons]
    by_cases h : m.1 = name
    · rw [if_pos h, if_pos (beq_iff_eq.2 h), List.map_cons, List.getLast?_cons]
      cases ((ms.filter fun m => m.1 == name).map Prod.snd).getLast? <;> rfl
    · rw [if_neg h, if_neg (by simpa using h)]

/-- An object that is made of members has the last value for a name. -/
theorem member?_ofMembers (name : String) (ms : List (String × Json)) :
    (ofMembers ms).member? name = ((ms.filter fun m => m.1 == name).map Prod.snd).getLast? := by
  rw [ofMembers, member?, lookup?_foldl_insertMember, lookup?, Option.or_none]

end Json

namespace Row

/-- The values that stand under a name, from left to right. -/
def valuesOf (r : Row) (name : String) : List Value :=
  ((r.columns.zip r.values).filter fun p => p.1 == name).map Prod.snd

/-- The value at the first place of a name is the first of the values under it. -/
theorem bind_idxOf?_eq_head? (columns : List String) (values : List Value) (name : String) :
    (columns.idxOf? name).bind (fun i => values[i]?) =
      ((Row.mk columns values).valuesOf name).head? := by
  induction columns generalizing values with
  | nil => rfl
  | cons column columns ih =>
    cases values with
    | nil => cases List.idxOf? name (column :: columns) <;> rfl
    | cons v values =>
      -- The first column of the name gives the value, if the row goes so far.
      by_cases h : column = name
      · subst h
        simp [List.idxOf?_cons, valuesOf]
      · have hrest := ih values
        simp only [valuesOf] at hrest ⊢
        rw [List.zip_cons_cons, List.filter_cons, if_neg (by simpa using h), ← hrest,
          List.idxOf?_cons, if_neg (by simpa using h), Option.bind_map]
        rfl

/-- By the name of a column one reads the first value that stands under it. -/
theorem get?_eq_head? {r : Row} {name : String} (h : name ∈ r.columns) :
    r.get? name = (r.valuesOf name).head? := by
  have hindex : r.columnIndex? name = r.columns.idxOf? name := by
    obtain ⟨i, hi⟩ := Option.isSome_iff_exists.1 (List.isSome_idxOf?.2 h)
    rw [columnIndex?, hi]
  rw [get?, hindex]
  exact bind_idxOf?_eq_head? r.columns r.values name

/-- The object of a row holds the last value that stands under a name. -/
theorem member?_toJson (r : Row) (name : String) :
    r.toJson.member? name = (r.valuesOf name).getLast?.map Value.toJson := by
  have hvalues : (r.members.filter fun m => m.1 == name).map Prod.snd =
      (r.valuesOf name).map Value.toJson := by
    simp only [members, valuesOf, List.filter_map, List.map_map]
    rfl
  rw [toJson, Json.member?_ofMembers, hvalues, List.getLast?_map]

/-- **Rows by name and as objects.** For the name of a column the object of a row has a member
    exactly if a value is read by that name. The member is the value read by name exactly if the
    first and the last value under the name are the same in JSON. -/
theorem member?_toJson_eq_iff {r : Row} {name : String} (h : name ∈ r.columns) :
    ((r.toJson.member? name).isSome ↔ (r.get? name).isSome) ∧
      (r.toJson.member? name = (r.get? name).map Value.toJson ↔
        ∀ first last, (r.valuesOf name).head? = some first →
          (r.valuesOf name).getLast? = some last → first.toJson = last.toJson) := by
  rw [get?_eq_head? h, member?_toJson]
  cases hvalues : r.valuesOf name with
  | nil => simp
  | cons v values => simp [List.getLast?_cons, eq_comm]

/-- The second column of a name has no value: the two ways to read agree. -/
theorem member?_toJson_eq_short :
    "id" ∈ ["id", "total", "id"] ∧
      (Row.mk ["id", "total", "id"] [.int 7, .int 12]).toJson.member? "id" =
        ((Row.mk ["id", "total", "id"] [.int 7, .int 12]).get? "id").map Value.toJson := by
  have hmem : "id" ∈ ["id", "total", "id"] := by decide
  refine ⟨hmem, (member?_toJson_eq_iff hmem).2.2 fun first last hfirst hlast => ?_⟩
  obtain rfl : Value.int 7 = first := Option.some.inj hfirst
  obtain rfl : Value.int 7 = last := Option.some.inj hlast
  rfl

/-- Two columns of one name with different values: the object has the last one. -/
theorem exists_member?_ne : ∃ (r : Row) (name : String), name ∈ r.columns ∧
    r.toJson.member? name ≠ (r.get? name).map Value.toJson := by
  have hmem : "id" ∈ (Row.mk ["id", "id"] [.int 1, .int 2]).columns := by decide
  refine ⟨⟨["id", "id"], [.int 1, .int 2]⟩, "id", hmem, ?_⟩
  rw [get?_eq_head? hmem, member?_toJson]
  simp [valuesOf, Value.toJson]

end Row

end QueryBook
