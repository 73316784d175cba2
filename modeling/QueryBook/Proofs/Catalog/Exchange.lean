import QueryBook.Proofs.Catalog.Invariant
import QueryBook.Proofs.Catalog.Takers

namespace QueryBook

open Files (Disk Listed Location FilePath Signature XmlFile)

/-!
# Keys that change hands

When all files of a listing are known, another scan of them does two things only: keys pass from
file to file, and files lose their marks. Both are told by which files take a key, and which file
had it.

* `Catalog.InStep` — a catalog that has noted what the files of a listing define.
* `InStep.owner?_scanned` — the last file that takes a key has it then.
* `InStep.isFresh_scanned_eq_false_iff` — a file is to be read again if another one had a key that
  both define, and was the first to take it: it gave the key up.
* `Trail.Inv.inStep_scan` — this is how a scan that loads every file leaves a catalog.
-/

namespace Catalog

/-! ### Taking files whose keys are noted -/

section

variable {c : Catalog} {e : FilePath × List Template} {loaded : List (FilePath × List Template)}

/-- Taking a file whose keys are noted already notes nothing new. -/
theorem keysOf_installFile_of_noted (hnoted : c.keysOf e.1.parts = e.2.map Template.key) :
    (c.installFile e.1 e.2).keysOf = c.keysOf := by
  funext l
  rw [keysOf_installFile, ← hnoted]
  split
  · next h => rw [h]
  · rfl

/-- A file that is taken has all its keys, and takes no other one. -/
theorem owner?_installFile_of_noted (hc : c.Sound)
    (hnoted : c.keysOf e.1.parts = e.2.map Template.key)
    (hown : ∀ t ∈ e.2, t.location? = some e.1.parts) (key : String) :
    (c.installFile e.1 e.2).owner? key =
      if key ∈ e.2.map Template.key then some e.1.parts else c.owner? key := by
  rw [owner?, template?_installFile _ _ hc]
  cases hlast : lastNamed? e.2 key with
  | some t =>
    obtain ⟨hm, hk⟩ := mem_of_lastNamed? hlast
    rw [Option.some_or, Option.bind_some, hown t hm, if_pos (List.mem_map.2 ⟨t, hm, hk⟩)]
  | none =>
    have hnot : key ∉ e.2.map Template.key := lastNamed?_eq_none_iff.1 hlast
    -- A key that it has is noted for it, so that it has none of the others.
    have hne : c.owner? key ≠ some e.1.parts := fun ho => hnot (hnoted ▸ hc.mem_keysOf ho)
    rw [Option.none_or, if_neg hne, if_neg hnot, owner?]

/-- Whether a file that was read gives a key. -/
def gives (key : String) (e : FilePath × List Template) : Bool :=
  (e.2.map Template.key).contains key

/-- A file that was read gives the keys of its templates. -/
theorem gives_iff {key : String} : gives key e = true ↔ key ∈ e.2.map Template.key := by
  rw [gives, List.contains_iff_mem]

/-- A mark is lost to the first of the files that give a key, if this one had the key. -/
theorem mark?_installFiles_eq_none_iff (hc : c.Sound) (h : Separate loaded)
    (hnoted : ∀ e ∈ loaded, c.keysOf e.1.parts = e.2.map Template.key) {l : Location} :
    (c.installFiles loaded).mark? l = none ↔ c.mark? l = none ∨
      ∃ key e, key ∈ c.keysOf l ∧ loaded.find? (gives key) = some e ∧
        c.owner? key = some e.1.parts ∧ e.1.parts ≠ l := by
  induction loaded generalizing c with
  | nil => simp
  | cons d loaded ih =>
    have hd : c.keysOf d.1.parts = d.2.map Template.key := hnoted d List.mem_cons_self
    have hkeys := keysOf_installFile_of_noted hd
    have howner := owner?_installFile_of_noted hc hd h.own_head
    rw [installFiles_cons, ih (hc.installFile h.own_head) h.tail fun e he => by
      rw [hkeys]; exact hnoted e (List.mem_cons_of_mem d he), mark?_installFile, hkeys]
    constructor
    · rintro (hmark | ⟨key, e, hk, hfind, ho, hne⟩)
      · by_cases hs : c.Shadowed d.1.parts (c.keysOf d.1.parts) l
        · obtain ⟨hne, key, hkd, ho, hk⟩ := hs
          have hgives : gives key d = true := gives_iff.2 (hd ▸ hkd)
          exact .inr ⟨key, d, hk, List.find?_cons_of_pos hgives, ho, Ne.symm hne⟩
        · rw [if_neg hs] at hmark
          exact .inl hmark
      · by_cases hgives : key ∈ d.2.map Template.key
        · -- The first file has the key now, and it is none of the later ones.
          rw [howner, if_pos hgives, Option.some.injEq] at ho
          exact absurd (List.mem_map.2 ⟨e, List.mem_of_find?_eq_some hfind, ho.symm⟩)
            h.head_not_mem
        · rw [howner, if_neg hgives] at ho
          exact .inr ⟨key, e, hk, by rwa [List.find?_cons_of_neg (mt gives_iff.1 hgives)], ho, hne⟩
    · rintro (hmark | ⟨key, e, hk, hfind, ho, hne⟩)
      · exact .inl (by split <;> [rfl; exact hmark])
      · by_cases hgives : key ∈ d.2.map Template.key
        · rw [List.find?_cons_of_pos (gives_iff.2 hgives), Option.some.injEq] at hfind
          subst hfind
          exact .inl (if_pos ⟨Ne.symm hne, key, hd ▸ hgives, ho, hk⟩)
        · rw [List.find?_cons_of_neg (mt gives_iff.1 hgives)] at hfind
          exact .inr ⟨key, e, hk, hfind, by rw [howner, if_neg hgives, ho], hne⟩

end

/-- The first of the files that give a key is the first one that takes it. -/
theorem find?_readsOf (c : Catalog) (files : List XmlFile) (key : String) :
    (c.readsOf files).find? (gives key) = (c.takers files key).head?.bind fun f =>
      (f.templates? c.defaultConnection).map fun ts => (f.path, ts) := by
  induction files with
  | nil => rfl
  | cons f files ih =>
    have htakers : c.takers (f :: files) key =
        if !c.isFresh f && decide (f.Defines c.defaultConnection key) then f :: c.takers files key
        else c.takers files key := List.filter_cons
    rw [readsOf, Freshness.reads_cons, List.find?_append, ← readsOf, ih, htakers, Freshness.read?,
      ← isFresh]
    cases hcur : c.isFresh f with
    | true => simp
    | false =>
      -- A file that is not passed over gives its templates, or none if it cannot be read.
      cases hts : f.templates? c.defaultConnection with
      | none =>
        have hdef : ¬ f.Defines c.defaultConnection key := by
          rintro ⟨ts, hsome, -⟩
          rw [hts] at hsome
          cases hsome
        simp [hdef]
      | some ts =>
        have hdef : f.Defines c.defaultConnection key ↔ gives key (f.path, ts) = true := by
          rw [gives_iff, XmlFile.Defines, hts]
          simp
        by_cases hgives : gives key (f.path, ts) = true <;> simp [hdef, hgives, hts]

/-- The last file that takes a key has it then. -/
theorem owner?_scanned_of_taker {c : Catalog} {files : List XmlFile} {key : String} {f : XmlFile}
    (hd : (files.map XmlFile.location).Nodup) (hc : c.Sound)
    (h : (c.takers files key).getLast? = some f) :
    (c.scanned files).owner? key = some f.location := by
  obtain ⟨ts, t, -, -, hsource, ht⟩ := template?_scanned_of_taker hd hc h
  rw [owner?, ht, Option.bind_some, Template.location?, hsource]
  rfl

/-- The file of an evicted key is to be read again. -/
theorem isFresh_evict_eq_false_iff {c : Catalog} {key : String} {g : XmlFile} :
    (c.evict key).2.isFresh g = false ↔ c.owner? (Text.lowercase key) = some g.location ∨
      c.isFresh g = false := by
  rw [← Bool.not_eq_true, ← Bool.not_eq_true, isFresh_iff, isFresh_iff, mark?_evict]
  by_cases ho : c.owner? (Text.lowercase key) = some g.location <;> simp [ho]

/-! ### A catalog that knows the files of a listing -/

/-- A catalog that has noted what the files of a listing define, and nothing else. -/
structure InStep (c : Catalog) (files : List XmlFile) : Prop where
  sound : c.Sound
  nodup : (files.map XmlFile.location).Nodup
  noted : ∀ f ∈ files, ∃ ts, f.templates? c.defaultConnection = some ts ∧
    c.fileKeys.get? f.location = some (ts.map Template.key)
  listed : ∀ l keys, c.fileKeys.get? l = some keys → l ∈ files.map XmlFile.location

namespace InStep

variable {c : Catalog} {files : List XmlFile} (h : c.InStep files) {f g : XmlFile} {key : String}
include h

/-- Files of the listing at one place are the same. -/
theorem eq_of_location_eq (hf : f ∈ files) (hg : g ∈ files) (hl : f.location = g.location) :
    f = g := List.inj_on_of_nodup_map h.nodup hf hg hl

/-- The keys that are noted for a file are those that it defines. -/
theorem mem_keysOf_iff (hf : f ∈ files) :
    key ∈ c.keysOf f.location ↔ f.Defines c.defaultConnection key := by
  obtain ⟨ts, hts, hkeys⟩ := h.noted f hf
  rw [keysOf, hkeys, XmlFile.Defines, hts]
  simp

/-- The file of a loaded key is listed and defines the key. -/
theorem exists_owner {l : Location} (ho : c.owner? key = some l) :
    ∃ f ∈ files, f.location = l ∧ f.Defines c.defaultConnection key := by
  have hk : key ∈ c.keysOf l := h.sound.mem_keysOf ho
  cases hget : c.fileKeys.get? l with
  | none => simp [keysOf, hget] at hk
  | some keys =>
    obtain ⟨f, hf, rfl⟩ := List.mem_map.1 (h.listed l keys hget)
    exact ⟨f, hf, rfl, (h.mem_keysOf_iff hf).1 hk⟩

theorem vanished_eq_nil : c.vanished files = [] := by
  refine List.eq_nil_iff_forall_not_mem.2 fun l hl => ?_
  obtain ⟨⟨keys, hkeys⟩, hout⟩ := mem_vanished.1 hl
  exact hout (h.listed l keys hkeys)

theorem defaultConnection_scanned : (c.scanned files).defaultConnection = c.defaultConnection :=
  congrArg Prod.snd (settings_scanned h.nodup)

/-- A scan of the same files keeps the catalog in step with them. -/
theorem scanned : (c.scanned files).InStep files where
  sound := h.sound.scanned h.nodup
  nodup := h.nodup
  noted f hf := by
    obtain ⟨ts, hts, hkeys⟩ := h.noted f hf
    rw [h.defaultConnection_scanned]
    refine ⟨ts, hts, ?_⟩
    cases hcur : c.isFresh f with
    | true => rw [get?_fileKeys_scanned_of_skips h.nodup hf (.inl hcur), hkeys]
    | false => exact get?_fileKeys_scanned_of_read h.nodup hf hcur hts
  listed l keys hkeys := by
    by_contra hout
    rw [get?_fileKeys_scanned_of_not_mem h.nodup hout] at hkeys
    cases hkeys

/-- The last file that takes a key has it then; a key that no file takes stays where it is. -/
theorem owner?_scanned (key : String) : (c.scanned files).owner? key =
    ((c.takers files key).getLast?.map XmlFile.location).or (c.owner? key) := by
  cases htake : (c.takers files key).getLast? with
  | some f => rw [owner?_scanned_of_taker h.nodup h.sound htake, Option.map_some, Option.some_or]
  | none =>
    have hnil := List.getLast?_eq_none_iff.1 htake
    rw [Option.map_none, Option.none_or, owner?, owner?]
    cases ht : c.template? key with
    | none =>
      have hafter := (template?_scanned_eq_none_iff h.nodup h.sound ht).2 fun f hf hdef =>
        isFresh_of_takers_eq_nil hnil hf hdef
      rw [hafter]
    | some t =>
      -- Its file defines the key and does not take it, so it is passed over.
      obtain ⟨l, hl, -⟩ := h.sound.owned ht
      obtain ⟨f, hf, rfl, hdef⟩ := h.exists_owner (by rw [owner?, ht, Option.bind_some, hl])
      have hcur := isFresh_of_takers_eq_nil hnil hf hdef
      rw [template?_scanned_of_takers_eq_nil h.nodup h.sound hnil hf (.inl hcur) ht hl]

/-- A listed file is passed over as long as it has a mark. -/
theorem isFresh_scanned_eq_false_iff_mark? (hg : g ∈ files) :
    (c.scanned files).isFresh g = false ↔ (c.scanned files).mark? g.location = none := by
  obtain ⟨ts, hts, -⟩ := h.noted g hg
  obtain ⟨s, hs, hafter⟩ := XmlFile.markAfter_of_templates? hts c.freshness
  rw [← Bool.not_eq_true, isFresh_iff]
  cases hm : (c.scanned files).mark? g.location with
  | none => simp
  | some m =>
    have heq := mark?_scanned_of_some h.nodup hg hm
    rw [hafter, Option.some.injEq] at heq
    simp [hs, heq]

/-- A file is to be read again if another file had a key that both define, and was the first one to
    take it. -/
theorem isFresh_scanned_eq_false_iff (hg : g ∈ files) : (c.scanned files).isFresh g = false ↔
    ∃ key f, g.Defines c.defaultConnection key ∧ (c.takers files key).head? = some f ∧
      c.owner? key = some f.location ∧ f.location ≠ g.location := by
  obtain ⟨ts, hts, -⟩ := h.noted g hg
  obtain ⟨s, -, hafter⟩ := XmlFile.markAfter_of_templates? hts c.freshness
  have hnoted : ∀ e ∈ c.readsOf files,
      (c.surveyed files).keysOf e.1.parts = e.2.map Template.key := by
    intro e he
    obtain ⟨f, hf, -, hfts, hpath⟩ := mem_readsOf.1 he
    obtain ⟨ts', hts', hkeys⟩ := h.noted f hf
    rw [hfts, Option.some.injEq] at hts'
    rw [← hpath, hts']
    change (c.fileKeys.get? f.location).getD [] = _
    rw [hkeys]
    rfl
  have hmark : (c.surveyed files).mark? g.location ≠ none := by
    rw [mark?_surveyed h.nodup hg, hafter]
    exact Option.some_ne_none s
  -- No file is gone, so a mark can only be lost while the files are taken in.
  rw [h.isFresh_scanned_eq_false_iff_mark? hg, (views_scanned h.nodup).2.2.2, filled,
    h.vanished_eq_nil, dropFiles_nil,
    mark?_installFiles_eq_none_iff h.sound.surveyed (separate_readsOf h.nodup) hnoted,
    or_iff_right hmark]
  refine exists_congr fun key => ?_
  rw [find?_readsOf]
  change (∃ e : FilePath × List Template, key ∈ c.keysOf g.location ∧ _ ∧
    c.owner? key = some e.1.parts ∧ _) ↔ _
  rw [h.mem_keysOf_iff hg]
  constructor
  · rintro ⟨e, hdef, hfind, ho, hne⟩
    obtain ⟨f, hf, he⟩ := Option.bind_eq_some_iff.1 hfind
    obtain ⟨ts', -, rfl⟩ := Option.map_eq_some_iff.1 he
    exact ⟨f, hdef, hf, ho, hne⟩
  · rintro ⟨f, hdef, hf, ho, hne⟩
    obtain ⟨ts', hts', -⟩ := h.noted f (mem_takers.1 (List.mem_of_head? hf)).1
    exact ⟨(f.path, ts'), hdef, by rw [hf, Option.bind_some, hts', Option.map_some], ho, hne⟩

/-- An evicted key leaves what is noted. -/
theorem evict (key : String) : (c.evict key).2.InStep files where
  sound := h.sound.evict key
  nodup := h.nodup
  noted f hf := by
    have hconnection : (c.evict key).2.defaultConnection = c.defaultConnection :=
      congrArg Prod.snd (settings_evict c key)
    rw [fileKeys_evict, hconnection]
    exact h.noted f hf
  listed l keys hkeys := h.listed l keys (by rwa [fileKeys_evict] at hkeys)

end InStep

end Catalog

/-- A scan that loads every file leaves the catalog in step with the files. -/
theorem Trail.Inv.inStep_scan {root : FilePath} {connection : String} {t : Trail}
    {files : List XmlFile} (h : t.Inv root connection) (hl : Listed root files)
    (hload : t.Loads files) (honest : t.Honest files) :
    (t.scan files).catalog.InStep files where
  sound := (h.scan hl).sound
  nodup := hl.nodup
  noted f hf := by
    obtain ⟨ts, hts⟩ := h.settled hl hload honest hf
    exact ⟨ts, (h.scan hl).connection_eq ▸ hts.templates, hts.keys⟩
  listed l keys hkeys := by
    by_contra hout
    rw [Trail.scan, Catalog.get?_fileKeys_scanned_of_not_mem hl.nodup hout] at hkeys
    cases hkeys

end QueryBook
