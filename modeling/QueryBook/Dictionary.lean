namespace QueryBook

universe u v

/-!
# Finite maps

A finite map as a list of entries with distinct keys, in the order in which the keys came first.

* `Dictionary.get?`, `insert`, `erase` — the entry of a key; writing one keeps its place.
* `Dictionary.ofList` — entries written one after another, so that the last one of a key stays.

Main statements: what is read after a write or an erasure (`get?_insert`, `get?_erase`), that a key
is listed exactly if it has an entry (`mem_keys_iff`), and that the entries are what is read
(`mem_entries_iff`).
-/

/-- Entries with pairwise distinct keys. -/
structure Dictionary (κ : Type u) (α : Type v) where
  entries : List (κ × α)
  nodup : (entries.map Prod.fst).Nodup

namespace Dictionary

variable {κ : Type u} {α : Type v} [DecidableEq κ]

/-- The map without entries. -/
def empty : Dictionary κ α := ⟨[], List.nodup_nil⟩

instance : Inhabited (Dictionary κ α) := ⟨empty⟩
instance : EmptyCollection (Dictionary κ α) := ⟨empty⟩

/-- The keys, in the order in which they came first. -/
def keys (d : Dictionary κ α) : List κ := d.entries.map Prod.fst

/-- The number of entries. -/
def size (d : Dictionary κ α) : Nat := d.entries.length

/-- Whether there is no entry. -/
def isEmpty (d : Dictionary κ α) : Bool := d.entries.isEmpty

/-! ### Reading and writing lists of entries -/

/-- The value at a key in a list of entries. -/
def find? (k : κ) : List (κ × α) → Option α
  | [] => none
  | e :: es => if e.1 = k then some e.2 else find? k es

/-- The list with a value written at a key, in the key's place or else at the end. -/
def put (k : κ) (a : α) : List (κ × α) → List (κ × α)
  | [] => [(k, a)]
  | e :: es => if e.1 = k then (k, a) :: es else e :: put k a es

/-- Nothing is found for the keys that no entry has. -/
theorem find?_eq_none_iff {k : κ} {es : List (κ × α)} :
    find? k es = none ↔ k ∉ es.map Prod.fst := by
  induction es with
  | nil => simp [find?]
  | cons e es ih =>
    by_cases h : e.1 = k
    · simp [find?, h]
    · simp [find?, h, ih, Ne.symm h]

/-- A value that is put takes the place of what its key had. -/
theorem find?_put (k k' : κ) (a : α) (es : List (κ × α)) :
    find? k' (put k a es) = if k = k' then some a else find? k' es := by
  induction es with
  | nil => by_cases h : k = k' <;> simp [put, find?, h]
  | cons e es ih => by_cases h : e.1 = k <;> by_cases h' : k = k' <;> grind [put, find?]

/-- To put a value adds its key, if it is new. -/
theorem mem_keys_put (k k' : κ) (a : α) (es : List (κ × α)) :
    k' ∈ (put k a es).map Prod.fst ↔ k' = k ∨ k' ∈ es.map Prod.fst := by
  induction es with
  | nil => simp [put]
  | cons e es ih => by_cases h : e.1 = k <;> grind [put]

/-- To put a value leaves one entry for each key. -/
theorem nodup_put (k : κ) (a : α) {es : List (κ × α)} (h : (es.map Prod.fst).Nodup) :
    ((put k a es).map Prod.fst).Nodup := by
  induction es with
  | nil => simp [put]
  | cons e es ih =>
    have hes : (es.map Prod.fst).Nodup := (List.nodup_cons.1 h).2
    have he : e.1 ∉ es.map Prod.fst := (List.nodup_cons.1 h).1
    by_cases hk : e.1 = k
    · subst hk; simpa [put] using h
    · rw [put, if_neg hk, List.map_cons, List.nodup_cons]
      exact ⟨fun hm => ((mem_keys_put k e.1 a es).1 hm).elim hk he, ih hes⟩

/-! ### Operations -/

/-- The value at a key. -/
def get? (d : Dictionary κ α) (k : κ) : Option α := find? k d.entries

/-- Whether a key has an entry. -/
def contains (d : Dictionary κ α) (k : κ) : Bool := (d.get? k).isSome

/-- The map with a value written at a key. -/
def insert (d : Dictionary κ α) (k : κ) (a : α) : Dictionary κ α :=
  ⟨put k a d.entries, nodup_put k a d.nodup⟩

/-- The map without a key's entry. -/
def erase (d : Dictionary κ α) (k : κ) : Dictionary κ α :=
  ⟨d.entries.filter fun e => decide (e.1 ≠ k),
    d.nodup.sublist (List.filter_sublist.map Prod.fst)⟩

/-- The entries written one after another into the empty map. -/
def ofList (es : List (κ × α)) : Dictionary κ α := es.foldl (fun d e => d.insert e.1 e.2) empty

@[simp] theorem get?_empty (k : κ) : (empty : Dictionary κ α).get? k = none := rfl

omit [DecidableEq κ] in
@[simp] theorem size_empty : (empty : Dictionary κ α).size = 0 := rfl

/-- A write is read back, and changes no other key. -/
@[simp] theorem get?_insert (d : Dictionary κ α) (k k' : κ) (a : α) :
    (d.insert k a).get? k' = if k = k' then some a else d.get? k' :=
  find?_put k k' a d.entries

/-- An erased key has no value, and no other key changes. -/
@[simp] theorem get?_erase (d : Dictionary κ α) (k k' : κ) :
    (d.erase k).get? k' = if k = k' then none else d.get? k' := by
  obtain ⟨es, hes⟩ := d
  simp only [get?, erase]
  induction es with
  | nil => simp [find?]
  | cons e es ih =>
    have := ih (List.nodup_cons.1 hes).2
    by_cases h : e.1 = k <;> by_cases h' : k = k' <;> grind [find?]

/-- Without an entry there is nothing to erase. -/
theorem erase_eq_self {d : Dictionary κ α} {k : κ} (h : d.get? k = none) : d.erase k = d := by
  have hk : k ∉ d.entries.map Prod.fst := find?_eq_none_iff.1 h
  have he : d.entries.filter (fun e => decide (e.1 ≠ k)) = d.entries := by
    refine List.filter_eq_self.2 fun e he => decide_eq_true fun hek => hk ?_
    exact List.mem_map.2 ⟨e, he, hek⟩
  obtain ⟨es, hes⟩ := d
  simp only [erase] at he ⊢
  simp only [he]

/-- The keys are those that have a value. -/
theorem mem_keys_iff {d : Dictionary κ α} {k : κ} : k ∈ d.keys ↔ ∃ a, d.get? k = some a := by
  rw [← Option.isSome_iff_exists, Option.isSome_iff_ne_none, keys, get?, Ne,
    find?_eq_none_iff, Classical.not_not]

omit [DecidableEq κ] in
/-- A dictionary has every key once. -/
theorem keys_nodup (d : Dictionary κ α) : d.keys.Nodup := d.nodup

/-- If keys do not repeat, what is found for one is its entry. -/
theorem find?_eq_some_iff {k : κ} {a : α} {es : List (κ × α)} (h : (es.map Prod.fst).Nodup) :
    find? k es = some a ↔ (k, a) ∈ es := by
  induction es with
  | nil => simp [find?]
  | cons e es ih =>
    obtain ⟨k', a'⟩ := e
    rw [List.map_cons, List.nodup_cons] at h
    by_cases hk : k' = k
    · subst hk
      have ha : (k', a) ∉ es := fun hm => h.1 (List.mem_map.2 ⟨_, hm, rfl⟩)
      simp [find?, ha, eq_comm]
    · simp [find?, hk, Ne.symm hk, ih h.2]

/-- The entries are the keys with their values. -/
theorem mem_entries_iff {d : Dictionary κ α} {k : κ} {a : α} :
    (k, a) ∈ d.entries ↔ d.get? k = some a := (find?_eq_some_iff d.nodup).symm

end Dictionary

end QueryBook
