import QueryBook.Proofs.Catalog.Unchanged

namespace QueryBook

open Files (Disk Listed Location FilePath Signature XmlFile)

/-!
# What a catalog holds is accounted for

Three dictionaries change in different orders: files vanish, are replaced or fail, keys are evicted,
and all is invalidated. Nothing in one of them is ever left without its counterpart in the others,
so that no template stays that no later scan would remove.

* `Catalog.Accounted` — templates, keys noted for files, and marks of files fit together.
* `Catalog.exists_listed_of_scanned` — after a scan every template was read from a listed file.
* `Trail.accounted_of_reachable` — both of them after any requests, whatever becomes of the files.
-/

namespace Catalog

/-- The dictionaries of a catalog fit together. -/
structure Accounted (c : Catalog) : Prop where
  /-- A loaded template stands under its own key. -/
  key_eq : ∀ {key loaded}, c.templates.get? key = some loaded → loaded.template.key = key
  /-- It has a source, for which the key is noted. -/
  source : ∀ {key loaded}, c.templates.get? key = some loaded →
    ∃ path keys, loaded.template.source = some path ∧ c.fileKeys.get? path.parts = some keys ∧
      key ∈ keys
  /-- Keys are noted for every file that counts as loaded. -/
  noted : ∀ {file mark}, c.freshness.get? file = some mark →
    ∃ keys, c.fileKeys.get? file = some keys

/-- The template that is loaded for a key is the one that the dictionary has for it. -/
theorem template?_of_get? {c : Catalog} {key : String} {loaded : Loaded}
    (h : c.templates.get? key = some loaded) : c.template? key = some loaded.template := by
  rw [template?, h, Option.map_some]

/-- A key that is among those of a file is noted for it. -/
theorem exists_get?_fileKeys {c : Catalog} {file : Location} {key : String}
    (h : key ∈ c.keysOf file) : ∃ keys, c.fileKeys.get? file = some keys ∧ key ∈ keys := by
  rw [keysOf] at h
  cases hkeys : c.fileKeys.get? file with
  | none => simp [hkeys] at h
  | some keys => exact ⟨keys, rfl, by simpa [hkeys] using h⟩

/-- After a scan every template was read from a file that was listed. -/
theorem exists_listed_of_scanned {c : Catalog} (hc : c.Sound) {files : List XmlFile}
    (hd : (files.map XmlFile.location).Nodup) {key : String} {t : Template}
    (h : (c.scanned files).template? key = some t) :
    ∃ f ∈ files, t.location? = some f.location := by
  obtain ⟨file, hl, hk⟩ := (hc.scanned hd).owned h
  obtain ⟨keys, hkeys, -⟩ := exists_get?_fileKeys hk
  have hlisted : file ∈ files.map XmlFile.location := by
    by_contra hout
    rw [get?_fileKeys_scanned_of_not_mem hd hout] at hkeys
    cases hkeys
  obtain ⟨f, hf, rfl⟩ := List.mem_map.1 hlisted
  exact ⟨f, hf, hl⟩

end Catalog

namespace Trail

section

variable {root : FilePath} {connection : String} {t : Trail}

/-- After any requests the dictionaries of a catalog fit together. -/
theorem Inv.accounted (h : t.Inv root connection) : t.catalog.Accounted where
  key_eq hloaded := h.sound.key_eq (Catalog.template?_of_get? hloaded)
  source hloaded := by
    obtain ⟨file, hl, hk⟩ := h.sound.owned (Catalog.template?_of_get? hloaded)
    obtain ⟨path, hpath, rfl⟩ := Option.map_eq_some_iff.1 hl
    obtain ⟨keys, hkeys, hmem⟩ := Catalog.exists_get?_fileKeys hk
    exact ⟨path, keys, hpath, hkeys, hmem⟩
  noted hmark := by
    obtain ⟨g, hg, -⟩ := h.marked hmark
    obtain ⟨ts, hts⟩ := h.remembers hg
    exact ⟨_, hts.keys⟩

/-- **Everything is accounted for.** After any requests, in front of any disks, the templates, the
    keys noted for files and the marks of files fit together; and after a request that scans and can
    list the files, every loaded template was read from one of them. -/
theorem accounted_of_reachable (h : Reachable root connection t) :
    t.catalog.Accounted ∧ ∀ (r : Catalog.Request) {disk : Disk} {files : List XmlFile},
      disk.WellNamed → disk.xmlFiles root = .ok files → r.scans t.catalog = true →
        (r.apply t.catalog disk).Accounted ∧
          ∀ {key loaded}, (r.apply t.catalog disk).templates.get? key = some loaded →
            ∃ f ∈ files, loaded.template.location? = some f.location := by
  have hinv : t.Inv root connection := h.inv
  refine ⟨hinv.accounted, fun r disk files hdisk hlist hscans => ⟨?_, fun {key loaded} hkey => ?_⟩⟩
  · rw [← catalog_next]
    exact (hinv.next hdisk r).accounted
  · have hnodup := (Disk.listed_of_xmlFiles hdisk hlist).nodup
    have happly : r.apply t.catalog disk = t.catalog.scanned files := by
      rw [Catalog.Request.apply_of_scans disk hscans, Catalog.reload, hinv.root_eq, hlist]
      rfl
    rw [happly] at hkey
    exact Catalog.exists_listed_of_scanned hinv.sound hnodup (Catalog.template?_of_get? hkey)

end

open QueryFile

/-- The file that has the key is written again: the key is loaded then, and from a listed file. -/
theorem accounted_of_reachable_renewed :
    Reachable ⟨"."⟩ "DbContext" rivalTrail ∧ rivalTrail.catalog.Accounted ∧
      (disk renewed).WellNamed ∧ (disk renewed).xmlFiles ⟨"."⟩ = .ok (renewed.map listed) ∧
      ∃ loaded,
        (Catalog.Request.reload.apply rivalTrail.catalog (disk renewed)).templates.get? "k" =
          some loaded ∧
        ∃ f ∈ renewed.map listed, loaded.template.location? = some f.location := by
  obtain ⟨haccounted, hscan⟩ := accounted_of_reachable reachable_rivalTrail
  have hdisk : (disk renewed).WellNamed := wellNamed_disk sublist_renewed
  have hlist := xmlFiles_disk sublist_renewed
  obtain ⟨tm, htm, -⟩ := Option.bind_eq_some_iff.1 source_renewed
  rw [catalog_next] at htm
  obtain ⟨loaded, hloaded, -⟩ := Option.map_eq_some_iff.1 htm
  exact ⟨reachable_rivalTrail, haccounted, hdisk, hlist, loaded, hloaded,
    (hscan .reload hdisk hlist rfl).2 hloaded⟩

end Trail

end QueryBook
