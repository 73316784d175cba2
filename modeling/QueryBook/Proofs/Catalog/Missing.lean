import QueryBook.Proofs.Catalog.Invariant
import QueryBook.Proofs.Catalog.Takers

namespace QueryBook

open Files (Disk Listed Location FilePath Signature XmlFile)

/-!
# Keys that are reported missing

A missing key is looked for in the files that are not passed over. A file that defines it is passed
over only if the key was evicted: evicting takes the mark of the file that had the key, and of no
other one that defines it.

* `Catalog.lookup_eq_templateNotFound_iff_scanned` — a key that is missing before and after a scan.
* `Trail.lookup_eq_templateNotFound_iff` — when a key is reported missing, after any requests.
-/

namespace Catalog

section

variable {c : Catalog} {files : List XmlFile} {key : String}

/-- A key is reported missing if it is missing before and after the scan. -/
theorem lookup_eq_templateNotFound_iff_scanned {disk : Disk}
    (hlist : disk.xmlFiles c.root = .ok files) :
    (c.lookup disk key).1 = .error (.templateNotFound key) ↔
      c.find? key = none ∧ (c.scanned files).template? (Text.lowercase key) = none := by
  have hscan : c.reload disk = ((c.scan (.ok files)).1, c.scanned files) := by
    rw [reload, hlist]
    rfl
  rw [← find?_eq_none_iff, lookup, hscan]
  cases hbefore : c.find? key with
  | some loaded => simp
  | none => cases hafter : (c.scanned files).find? key <;> simp [scan, hafter]

end

end Catalog

namespace Trail

section

variable {root : FilePath} {connection : String} {t : Trail} {files : List XmlFile} {key : String}

/-- A missing key that a file defines which is passed over was evicted. -/
theorem Inv.mem_evicted (h : t.Inv root connection) (honest : t.Honest files) {f : XmlFile}
    (hf : f ∈ files) (hbelow : ∃ names, f.Below root names) (hcur : t.catalog.isFresh f = true)
    (hdef : f.Defines connection key) (hnone : t.catalog.template? key = none) :
    key ∈ t.evicted := by
  by_contra hevicted
  obtain ⟨ts, hts, hk⟩ := hdef
  obtain ⟨ts', hrem⟩ := h.remembers_of_isFresh honest hf hbelow hcur
  obtain rfl : ts = ts' := Option.some.inj (hts.symm.trans hrem.templates)
  have hkeys : key ∈ t.catalog.keysOf f.location := by
    rw [Catalog.keysOf, hrem.keys]
    exact hk
  have hmark := h.covers key f.location hnone hkeys hevicted List.not_mem_nil
  obtain ⟨s, -, hs⟩ := Catalog.isFresh_iff.1 hcur
  rw [hmark] at hs
  cases hs

/-- **When a key is reported missing.** After any requests, in front of files that have the texts
    which their marks stand for, a key is reported missing if it is not loaded, and every file that
    defines it is passed over. This happens to evicted keys only. -/
theorem lookup_eq_templateNotFound_iff (h : Reachable root connection t) {disk : Disk}
    (hdisk : disk.WellNamed) (hlist : disk.xmlFiles root = .ok files) (honest : t.Honest files)
    (key : String) :
    (t.catalog.lookup disk key).1 = .error (.templateNotFound key) ↔
      t.catalog.find? key = none ∧ ∀ f ∈ files, f.Defines connection (Text.lowercase key) →
        t.catalog.isFresh f = true ∧ Text.lowercase key ∈ t.evicted := by
  have hinv : t.Inv root connection := h.inv
  have hl : Listed root files := Disk.listed_of_xmlFiles hdisk hlist
  have hroot : disk.xmlFiles t.catalog.root = .ok files := by rw [hinv.root_eq, hlist]
  rw [Catalog.lookup_eq_templateNotFound_iff_scanned hroot]
  refine and_congr_right fun hfind => ?_
  have hnone := Catalog.find?_eq_none_iff.1 hfind
  rw [Catalog.template?_scanned_eq_none_iff hl.nodup hinv.sound hnone, hinv.connection_eq]
  constructor
  · intro hfresh f hf hdef
    have hcur := hfresh f hf hdef
    exact ⟨hcur, hinv.mem_evicted honest hf (hl.below f hf) hcur hdef hnone⟩
  · intro hfresh f hf hdef
    exact (hfresh f hf hdef).1

end

/-! ### A key that is shadowed and evicted -/

open QueryFile

/-- Both files are read, and the key is evicted. -/
def evictedTrail : Trail := rivalTrail.next (disk rivals) (.evict "k")

theorem reachable_evictedTrail : Reachable ⟨"."⟩ "DbContext" evictedTrail :=
  .next reachable_rivalTrail (.evict "k") (wellNamed_disk sublist_rivals) fun _ _ _ => trivial

/-- The requests are a scan of both files and an eviction. -/
theorem evictedTrail_eq :
    evictedTrail = ((opened ⟨"."⟩ "DbContext").scan (rivals.map listed)).evict "k" := by
  rw [evictedTrail, next, rivalTrail_eq]

theorem sublist_rivals_take : ((rivals.take 1).map file).Sublist fileNames := by decide

/-- The first file, which is left alone from then on, still has the text that it was loaded with. -/
theorem honest_evictedTrail : evictedTrail.Honest ((rivals.take 1).map listed) := by
  intro f hf g hg _
  rw [evictedTrail_eq] at hg
  have hm : f ∈ rivals.map listed := List.map_subset listed (List.take_subset 1 rivals) hf
  have hlast := (lastLoad_evict_of_some hg).2
  rw [lastLoad_scan_opened (nodup_listed sublist_rivals) (loads_listed _ (by decide)) hm,
    Option.some.injEq] at hlast
  rw [hlast]

/-- The key was evicted, and the file that had it is gone: whether it is found turns on whether the
    other file, which defines it, is passed over. -/
theorem lookup_eq_templateNotFound_iff_rivals :
    Reachable ⟨"."⟩ "DbContext" evictedTrail ∧ (disk (rivals.take 1)).WellNamed ∧
      evictedTrail.Honest ((rivals.take 1).map listed) ∧
      ((evictedTrail.catalog.lookup (disk (rivals.take 1)) "k").1 =
          .error (.templateNotFound "k") ↔
        evictedTrail.catalog.find? "k" = none ∧ ∀ f ∈ (rivals.take 1).map listed,
          f.Defines "DbContext" (Text.lowercase "k") →
            evictedTrail.catalog.isFresh f = true ∧ Text.lowercase "k" ∈ evictedTrail.evicted) :=
  ⟨reachable_evictedTrail, wellNamed_disk sublist_rivals_take, honest_evictedTrail,
    lookup_eq_templateNotFound_iff reachable_evictedTrail (wellNamed_disk sublist_rivals_take)
      (xmlFiles_disk sublist_rivals_take) honest_evictedTrail "k"⟩

/-- If the file that had the key is gone, the key is reported missing although the other one, which
    was never gone, defines it. -/
theorem exists_defines_of_templateNotFound :
    ∃ t disk files f, Reachable ⟨"."⟩ "DbContext" t ∧ disk.WellNamed ∧
      disk.xmlFiles ⟨"."⟩ = .ok files ∧ t.Loads files ∧ t.Honest files ∧
      f ∈ files ∧ f.Defines "DbContext" (Text.lowercase "k") ∧
      (t.catalog.lookup disk "k").1 = .error (.templateNotFound "k") := by
  have hloads : evictedTrail.Loads ((rivals.take 1).map listed) := loads_listed _ (by decide)
  have hdef : (listed ⟨"a.xml", 100, "K"⟩).Defines "DbContext" (Text.lowercase "k") :=
    ⟨_, templates?_listed (by decide) "DbContext", by decide +kernel⟩
  have hlookup : (evictedTrail.catalog.lookup (disk (rivals.take 1)) "k").1 =
      .error (.templateNotFound "k") := by
    have hlist : (disk (rivals.take 1)).xmlFiles evictedTrail.catalog.root =
        .ok ((rivals.take 1).map listed) := by
      rw [reachable_evictedTrail.inv.root_eq, xmlFiles_disk sublist_rivals_take]
    rw [Catalog.lookup_eq_templateNotFound_iff_scanned hlist, evictedTrail_eq]
    refine ⟨Catalog.find?_evict _ "k", ?_⟩
    decide +kernel
  exact ⟨evictedTrail, _, _, _, reachable_evictedTrail, wellNamed_disk sublist_rivals_take,
    xmlFiles_disk sublist_rivals_take, hloads, honest_evictedTrail, List.mem_singleton.2 rfl, hdef,
    hlookup⟩

end Trail

end QueryBook
