import Mathlib.Data.List.Dedup
import Mathlib.Data.List.Nodup
import QueryBook.Config

namespace QueryBook

/-!
# Connections under several spellings

A configuration may list a connection string under `Main` and another one under ` main`, and it
holds its connection strings in no order of its own. The registry made of them has one entry for
all spellings of a name, with the string of the spelling that comes last.

* `Dictionary.Equiv` — the same map, perhaps with its entries in another order.
* `Dictionary.get?_ofList`, `Dictionary.size_ofList` — a map made by writing entries, in closed
  form.
* `Connections.spellings` — the entries that count for one name; `Connections.get?_ofList` and
  `Connections.size_ofList` say what the registry makes of them.
* `Connections.Alike` — strings that a look-up does not tell apart.
* `Config.Unambiguous` — a name all of whose spellings have such strings. This can be tested before
  the first call.
* `Config.connections_of_equiv` — what is the same in every order;
  `Config.exists_lookup_connections_ne` is a configuration in which the order decides.
-/

universe u v

namespace Dictionary

variable {κ : Type u} {α : Type v} [DecidableEq κ]

/-! ### Maps in another order -/

/-- Two maps with the same values at the same keys. -/
def Equiv (d d' : Dictionary κ α) : Prop := ∀ k, d.get? k = d'.get? k

/-- Maps that are read alike have the same entries, each map in its order. -/
theorem equiv_iff_perm {d d' : Dictionary κ α} : d.Equiv d' ↔ d.entries.Perm d'.entries := by
  rw [List.perm_ext_iff_of_nodup (.of_map Prod.fst d.nodup) (.of_map Prod.fst d'.nodup)]
  constructor
  · rintro h ⟨k, a⟩
    rw [mem_entries_iff, mem_entries_iff, h k]
  · intro h k
    refine Option.ext fun a => ?_
    rw [← mem_entries_iff, ← mem_entries_iff, h]

/-- Each entry of a map comes last in some order. -/
theorem exists_equiv_concat {d : Dictionary κ α} {e : κ × α} (he : e ∈ d.entries) :
    ∃ (d' : Dictionary κ α) (es : List (κ × α)), d.Equiv d' ∧ d'.entries = es ++ [e] := by
  obtain ⟨before, after, hsplit⟩ := List.append_of_mem he
  -- The other entries keep their order.
  have hperm : d.entries.Perm (before ++ after ++ [e]) := by
    rw [hsplit, List.append_assoc]
    exact (List.perm_append_singleton e after).symm.append_left before
  have hnodup : ((before ++ after ++ [e]).map Prod.fst).Nodup :=
    (hperm.map Prod.fst).nodup_iff.1 d.nodup
  exact ⟨⟨before ++ after ++ [e], hnodup⟩, before ++ after, equiv_iff_perm.2 hperm, rfl⟩

/-! ### Maps made by writing entries -/

/-- Of the entries written one after another the last one of a key stays. -/
theorem get?_foldl_insert (k : κ) (es : List (κ × α)) (d : Dictionary κ α) :
    (es.foldl (fun d e => d.insert e.1 e.2) d).get? k =
      ((es.filter fun e => e.1 = k).getLast?.map Prod.snd).or (d.get? k) := by
  induction es generalizing d with
  | nil => rfl
  | cons e es ih =>
    rw [List.foldl_cons, ih, get?_insert, List.filter_cons]
    by_cases h : e.1 = k
    · rw [if_pos h, if_pos (decide_eq_true h), List.getLast?_cons]
      cases (es.filter fun e => e.1 = k).getLast? <;> rfl
    · rw [if_neg h, if_neg (by simpa using h)]

/-- A key has the value that was written last. -/
theorem get?_ofList (k : κ) (es : List (κ × α)) :
    (ofList es).get? k = (es.filter fun e => e.1 = k).getLast?.map Prod.snd := by
  rw [ofList, get?_foldl_insert, get?_empty, Option.or_none]

/-- The keys are those that were written, each once. -/
theorem keys_ofList_perm (es : List (κ × α)) : (ofList es).keys.Perm (es.map Prod.fst).dedup := by
  rw [List.perm_ext_iff_of_nodup (keys_nodup _) (List.nodup_dedup _)]
  intro k
  rw [List.mem_dedup, mem_keys_iff, ← Option.isSome_iff_exists, get?_ofList, Option.isSome_map,
    List.getLast?_isSome, Ne, List.filter_eq_nil_iff]
  simp

/-- A map that is made of entries has as many keys as the entries have different ones. -/
theorem size_ofList (es : List (κ × α)) : (ofList es).size = (es.map Prod.fst).dedup.length := by
  rw [← (keys_ofList_perm es).length_eq, keys, List.length_map, size]

end Dictionary

namespace Connections

/-- A name as far as it counts, character by character. -/
theorem normalize_eq_iff {name text : String} :
    normalize name = text ↔ (Text.trimChars name.toList).map Char.toLower = text.toList := by
  rw [← String.toList_inj, normalize, Text.asciiLowercase, String.toList_map, Text.trim,
    String.toList_ofList]

/-! ### The registry of a list of entries -/

/-- The entries whose names count as a given one. -/
def spellings (name : String) (es : List (String × String)) : List (String × String) :=
  es.filter fun e => normalize e.1 = normalize name

/-- Writing connection strings is writing entries under what counts of their names. -/
theorem entries_ofList (es : List (String × String)) :
    (ofList es).entries = Dictionary.ofList (es.map fun e => (normalize e.1, e.2)) := by
  rw [Dictionary.ofList, List.foldl_map, ofList]
  exact (List.foldl_hom Connections.entries fun _ _ => rfl).symm

/-- A name has the string of its last spelling. -/
theorem get?_ofList (name : String) (es : List (String × String)) :
    (ofList es).get? name = (spellings name es).getLast?.map Prod.snd := by
  rw [get?, entries_ofList, Dictionary.get?_ofList, List.filter_map, List.getLast?_map,
    Option.map_map]
  rfl

/-- All spellings of a name are one entry. -/
theorem size_ofList (es : List (String × String)) :
    (ofList es).size = (es.map fun e => normalize e.1).dedup.length := by
  rw [size, entries_ofList, Dictionary.size_ofList, List.map_map]
  rfl

/-- A registry contains a name if some entry spells it. -/
theorem contains_ofList (name : String) (es : List (String × String)) :
    (ofList es).contains name = !(spellings name es).isEmpty := by
  rw [contains, get?_ofList, Option.isSome_map]
  cases spellings name es <;> simp

/-! ### What a look-up tells apart -/

/-- Strings that a look-up does not tell apart: a blank one is an error, whatever its blanks. -/
def Alike (value value' : String) : Prop :=
  value = value' ∨ (Text.isBlank value = true ∧ Text.isBlank value' = true)

instance (value value' : String) : Decidable (Alike value value') :=
  inferInstanceAs (Decidable (_ ∨ _))

/-- A look-up depends on what the registry has for the name. -/
theorem lookup_congr {c c' : Connections} {name : String} (h : c.get? name = c'.get? name) :
    c.lookup name = c'.lookup name := by
  rw [lookup, lookup, h]

/-- Registries that have the name give the same if a look-up does not tell their strings apart. -/
theorem lookup_eq_lookup_iff {c c' : Connections} {name value value' : String}
    (h : c.get? name = some value) (h' : c'.get? name = some value') :
    c.lookup name = c'.lookup name ↔ Alike value value' := by
  rw [lookup, lookup, h, h']
  by_cases hblank : Text.isBlank value <;> by_cases hblank' : Text.isBlank value' <;>
    simp [Alike, hblank, hblank']
  all_goals
    rintro rfl
    contradiction

end Connections

namespace Config

open Connections (Alike spellings)

/-! ### The registry of a configuration -/

/-- A name whose spellings in a configuration have strings that a look-up does not tell apart. -/
def Unambiguous (c : Config) (name : String) : Prop :=
  ∀ e ∈ spellings name c.connectionStrings.entries,
    ∀ e' ∈ spellings name c.connectionStrings.entries, Alike e.2 e'.2

instance (c : Config) (name : String) : Decidable (c.Unambiguous name) :=
  inferInstanceAs (Decidable (∀ e ∈ spellings name c.connectionStrings.entries, _))

variable {c c' : Config} {name : String}

/-- In another order a name has the same spellings. -/
theorem spellings_perm (h : c.connectionStrings.Equiv c'.connectionStrings) :
    (spellings name c.connectionStrings.entries).Perm
      (spellings name c'.connectionStrings.entries) :=
  (Dictionary.equiv_iff_perm.1 h).filter _

/-- Connection strings in another order make a registry of the same size. -/
theorem size_connections (h : c.connectionStrings.Equiv c'.connectionStrings) :
    c'.connections.size = c.connections.size := by
  have hnames := (Dictionary.equiv_iff_perm.1 h).map fun e => Connections.normalize e.1
  rw [connections, connections, Connections.size_ofList, Connections.size_ofList]
  exact hnames.dedup.length_eq.symm

/-- Connection strings in another order make a registry with the same names. -/
theorem contains_connections (h : c.connectionStrings.Equiv c'.connectionStrings) :
    c'.connections.contains name = c.connections.contains name := by
  rw [connections, connections, Connections.contains_ofList, Connections.contains_ofList,
    (spellings_perm h).isEmpty_eq]

/-- In every order a name has the string of one of its spellings, if it has any. -/
theorem exists_spelling (h : c.connectionStrings.Equiv c'.connectionStrings) {value : String}
    (hvalue : c'.connections.get? name = some value) :
    ∃ e ∈ spellings name c.connectionStrings.entries, e.2 = value := by
  rw [connections, Connections.get?_ofList] at hvalue
  obtain ⟨e, hlast, rfl⟩ := Option.map_eq_some_iff.1 hvalue
  exact ⟨e, (spellings_perm h).mem_iff.2 (List.mem_of_getLast? hlast), rfl⟩

/-- Each spelling of a name gives the name its string in some order. -/
theorem exists_get?_connections {e : String × String}
    (he : e ∈ spellings name c.connectionStrings.entries) :
    ∃ c' : Config, c.connectionStrings.Equiv c'.connectionStrings ∧
      c'.connections.get? name = some e.2 := by
  obtain ⟨hmem, hname⟩ := List.mem_filter.1 he
  obtain ⟨d, es, hequiv, hes⟩ := Dictionary.exists_equiv_concat hmem
  have hlast : (spellings name d.entries).getLast? = some e := by
    rw [hes, spellings, List.filter_append, List.filter_singleton, hname, cond_true,
      List.getLast?_concat]
  refine ⟨{ c with connectionStrings := d }, hequiv, ?_⟩
  rw [connections, Connections.get?_ofList, hlast, Option.map_some]

/-- A look-up of an unambiguous name comes to the same in every order. -/
theorem lookup_connections (h : c.connectionStrings.Equiv c'.connectionStrings)
    (hname : c.Unambiguous name) : c'.connections.lookup name = c.connections.lookup name := by
  have hcontains : (c'.connections.get? name).isSome = (c.connections.get? name).isSome :=
    contains_connections h
  cases hvalue' : c'.connections.get? name with
  | none =>
    rw [hvalue', Option.isSome_none, eq_comm, Option.isSome_eq_false_iff,
      Option.isNone_iff_eq_none] at hcontains
    exact Connections.lookup_congr (hvalue'.trans hcontains.symm)
  | some value' =>
    rw [hvalue', Option.isSome_some, eq_comm] at hcontains
    obtain ⟨value, hvalue⟩ := Option.isSome_iff_exists.1 hcontains
    obtain ⟨e', he', rfl⟩ := exists_spelling h hvalue'
    obtain ⟨e, he, rfl⟩ := exists_spelling (fun _ => rfl) hvalue
    exact (Connections.lookup_eq_lookup_iff hvalue' hvalue).2 (hname e' he' e he)

/-- **Connection strings in any order.** In whatever order a configuration lists its connection
    strings, the registry made of them has an entry for the same names, and as many entries. A
    look-up of a name comes to the same in every order exactly if the name is unambiguous. -/
theorem connections_of_equiv (c : Config) :
    (∀ c' : Config, c.connectionStrings.Equiv c'.connectionStrings →
      c'.connections.size = c.connections.size ∧
        ∀ name, c'.connections.contains name = c.connections.contains name) ∧
    ∀ name, (∀ c' : Config, c.connectionStrings.Equiv c'.connectionStrings →
      c'.connections.lookup name = c.connections.lookup name) ↔ c.Unambiguous name := by
  refine ⟨fun c' h => ⟨size_connections h, fun name => contains_connections h⟩, fun name => ?_⟩
  constructor
  · intro hsame e he e' he'
    -- Two orders, one with each spelling at the end; both look-ups come to that of `c`.
    obtain ⟨c₁, h₁, hget₁⟩ := exists_get?_connections he
    obtain ⟨c₂, h₂, hget₂⟩ := exists_get?_connections he'
    exact (Connections.lookup_eq_lookup_iff hget₁ hget₂).1 ((hsame c₁ h₁).trans (hsame c₂ h₂).symm)
  · exact fun hname c' h => lookup_connections h hname

/-- Two spellings of a name with one string, and two of another with blank strings. -/
def spelledTwice : Config where
  connectionStrings :=
    ⟨[("Main", "main.db"), ("Old", ""), (" main", "main.db"), ("OLD", " ")], by decide⟩

/-- The same connection strings, listed from the other end. -/
def spelledTwiceReversed : Config where
  connectionStrings :=
    ⟨[("OLD", " "), (" main", "main.db"), ("Old", ""), ("Main", "main.db")], by decide⟩

/-- The two configurations have the same connection strings. -/
theorem equiv_spelledTwiceReversed :
    spelledTwice.connectionStrings.Equiv spelledTwiceReversed.connectionStrings :=
  Dictionary.equiv_iff_perm.2 (by decide)

/-- In the first one the spellings of both names have strings that a look-up does not tell apart. -/
theorem unambiguous_spelledTwice :
    spelledTwice.Unambiguous "MAIN" ∧ spelledTwice.Unambiguous "old" := by
  have hnames : Connections.normalize "Main" = "main" ∧ Connections.normalize " main" = "main" ∧
      Connections.normalize "MAIN" = "main" ∧ Connections.normalize "Old" = "old" ∧
      Connections.normalize "OLD" = "old" ∧ Connections.normalize "old" = "old" := by
    simp only [Connections.normalize_eq_iff]
    decide
  have hmain : spellings "MAIN" spelledTwice.connectionStrings.entries =
      [("Main", "main.db"), (" main", "main.db")] := by
    simp [spelledTwice, spellings, hnames]
  have hold : spellings "old" spelledTwice.connectionStrings.entries =
      [("Old", ""), ("OLD", " ")] := by
    simp [spelledTwice, spellings, hnames]
  rw [Unambiguous, Unambiguous, hmain, hold]
  decide

/-- Listed from either end, the registry has as many entries, and the same strings. -/
theorem connections_of_equiv_reversed :
    spelledTwice.connectionStrings.Equiv spelledTwiceReversed.connectionStrings ∧
      spelledTwiceReversed.connections.size = spelledTwice.connections.size ∧
      spelledTwiceReversed.connections.lookup "MAIN" = spelledTwice.connections.lookup "MAIN" ∧
      spelledTwiceReversed.connections.lookup "old" = spelledTwice.connections.lookup "old" := by
  have h := equiv_spelledTwiceReversed
  obtain ⟨hmain, hold⟩ := unambiguous_spelledTwice
  obtain ⟨hentries, hlookup⟩ := connections_of_equiv spelledTwice
  exact ⟨h, (hentries _ h).1, (hlookup "MAIN").2 hmain _ h, (hlookup "old").2 hold _ h⟩

/-- Two spellings of a name with strings that differ: the order decides which one the name has. -/
theorem exists_lookup_connections_ne : ∃ (c c' : Config) (name : String),
    c.connectionStrings.Equiv c'.connectionStrings ∧
      c.connections.lookup name ≠ c'.connections.lookup name := by
  refine ⟨{ connectionStrings := ⟨[("Main", "a.db"), ("main", "b.db")], by decide⟩ },
    { connectionStrings := ⟨[("main", "b.db"), ("Main", "a.db")], by decide⟩ }, "Main",
    Dictionary.equiv_iff_perm.2 (by decide), fun h => ?_⟩
  have hnames : Connections.normalize "Main" = "main" ∧
      Connections.normalize "main" = "main" := by
    simp only [Connections.normalize_eq_iff]
    decide
  have hapart : ¬ Alike "b.db" "a.db" := by decide
  refine hapart ((Connections.lookup_eq_lookup_iff ?_ ?_).1 h)
  all_goals simp [connections, Connections.get?_ofList, spellings, hnames]

end Config

end QueryBook
