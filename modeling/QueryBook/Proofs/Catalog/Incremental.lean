import QueryBook.Proofs.Catalog.Failed
import QueryBook.Proofs.Catalog.Invariant
import QueryBook.Proofs.Catalog.Takers

namespace QueryBook

open Files (Disk Listed Location FilePath Signature XmlFile)

/-!
# A catalog that is kept up to date is as good as a new one

If at each scan every file loads, no key is in two files, and no file has changed behind its mark, a
catalog holds after a scan what a catalog would hold that was just opened. Only the files are read
of which the history has no content, or one that looked different.

* `Trail.Orderly` — what each scan must meet.
* `Trail.Exact` — what holds after orderly requests, beyond `Trail.Inv`; `Run.exact` — it does.
* `Trail.needsLoad` — a file is new, looks different, was evicted from, or everything was forgotten.
* `Trail.Run.incremental` — the catalog after a scan, and which files the scan read.
-/

namespace Trail

/-- All files load, a key is in one file only, and files that look the same are the same. -/
structure Orderly (t : Trail) (files : List XmlFile) : Prop where
  loads : t.Loads files
  exclusive : ∀ f ∈ files, ∀ g ∈ files, ∀ key, f.Defines t.catalog.defaultConnection key →
    g.Defines t.catalog.defaultConnection key → f.location = g.location
  honest : t.Honest files

/-- What holds after orderly requests. -/
structure Exact (t : Trail) : Prop where
  /-- No key is noted for two files. -/
  exclusive : ∀ {key l l'}, key ∈ t.catalog.keysOf l → key ∈ t.catalog.keysOf l' → l = l'
  /-- A file whose content the history still has counts as loaded, -/
  marked : ∀ {l g}, t.lastLoad l = some g →
    ∃ m, g.signature = .ok m ∧ t.catalog.mark? l = some m
  /-- and has all keys that are noted for it. -/
  loaded : ∀ {l g key}, t.lastLoad l = some g → key ∈ t.catalog.keysOf l →
    t.catalog.owner? key = some l

/-- A file is to be read: the history has no content of it, or one that looked different. -/
def needsLoad (t : Trail) (f : XmlFile) : Bool :=
  !(t.lastLoad f.location).any fun g => g.signature.toOption == f.signature.toOption

section

variable {root : FilePath} {connection : String} {t : Trail} {files : List XmlFile}

/-- After orderly requests no file has a key that is noted for another one. -/
theorem Exact.soleOwner (he : t.Exact) (h : t.Inv root connection) (file : Location) :
    t.catalog.SoleOwner file := fun _ _ ho hk => he.exclusive hk (h.sound.mem_keysOf ho)

/-- What is to be read is what a scan does not pass over. -/
theorem Exact.needsLoad_eq (he : t.Exact) (h : t.Inv root connection) (f : XmlFile) :
    t.needsLoad f = !t.catalog.isFresh f := by
  rw [needsLoad, Bool.not_inj_iff, Bool.eq_iff_iff, Option.any_eq_true, Catalog.isFresh_iff]
  constructor
  · rintro ⟨g, hg, hsame⟩
    obtain ⟨m, hm, hmark⟩ := he.marked hg
    rw [beq_iff_eq, hm] at hsame
    refine ⟨m, ?_, hmark⟩
    cases hs : f.signature with
    | error fault => rw [hs] at hsame; cases hsame
    | ok s => rw [hs] at hsame; exact congrArg Except.ok (Option.some.inj hsame).symm
  · rintro ⟨s, hs, hmark⟩
    obtain ⟨g, hg, hm⟩ := h.marked hmark
    exact ⟨g, hg, by rw [hs, hm, beq_iff_eq]⟩

/-! ### A scan -/

variable (he : t.Exact) (h : t.Inv root connection) (hl : Listed root files) (ho : t.Orderly files)
include he h hl ho

/-- After an orderly scan a key belongs to the file that defines it. -/
theorem Exact.owner?_scan {f : XmlFile} (hf : f ∈ files) {key : String}
    (hdef : f.Defines connection key) :
    (t.scan files).catalog.owner? key = some f.location := by
  rw [← h.connection_eq] at hdef
  have hd := hl.nodup
  cases htake : (t.catalog.takers files key).getLast? with
  | some g =>
    obtain ⟨hg, -, hgdef⟩ := Catalog.mem_takers.1 (List.mem_of_getLast? htake)
    obtain ⟨ts, tm, -, -, hsource, hafter⟩ := Catalog.template?_scanned_of_taker hd h.sound htake
    have htm : (t.scan files).catalog.template? key = some tm := hafter
    rw [Catalog.owner?, htm, Option.bind_some, Template.location?, hsource,
      ho.exclusive f hf g hg key hdef hgdef]
    rfl
  | none =>
    -- The file is passed over, and the catalog has its key from before.
    have hnil := List.getLast?_eq_none_iff.1 htake
    have hcur := Catalog.isFresh_of_takers_eq_nil hnil hf hdef
    obtain ⟨ts, hts⟩ := h.remembers_of_isFresh ho.honest hf (hl.below f hf) hcur
    obtain ⟨ts', hts', hk⟩ := hdef
    rw [h.connection_eq, hts.templates, Option.some.injEq] at hts'
    subst hts'
    obtain ⟨s, -, hmark⟩ := Catalog.isFresh_iff.1 hcur
    obtain ⟨g, hg, -⟩ := h.marked hmark
    have hkeys : key ∈ t.catalog.keysOf f.location := by
      rw [Catalog.keysOf, hts.keys]
      exact hk
    obtain ⟨tm, htm, hloc⟩ := Option.bind_eq_some_iff.1 (he.loaded hg hkeys)
    have hafter : (t.scan files).catalog.template? key = some tm :=
      Catalog.template?_scanned_of_takers_eq_nil hd h.sound hnil hf (.inl hcur) htm hloc
    rw [Catalog.owner?, hafter, Option.bind_some, hloc]

/-- After an orderly scan the templates are those that the files give, whatever was loaded
    before. -/
theorem Exact.template?_scan_eq_some_iff {key : String} {tm : Template} :
    (t.scan files).catalog.template? key = some tm ↔
      ∃ f ∈ files, ∃ ts, f.templates? connection = some ts ∧ lastNamed? ts key = some tm := by
  constructor
  · intro hkey
    obtain ⟨f, hf, ts, hts, -, hlast⟩ := h.exists_listed hl ho.loads ho.honest hkey
    exact ⟨f, hf, ts, hts.templates, hlast⟩
  · rintro ⟨f, hf, ts, hts, hlast⟩
    obtain ⟨hm, hk⟩ := mem_of_lastNamed? hlast
    have hdef : f.Defines connection key := ⟨ts, hts, List.mem_map.2 ⟨tm, hm, hk⟩⟩
    obtain ⟨tm', htm', hloc⟩ := Option.bind_eq_some_iff.1 (he.owner?_scan h hl ho hf hdef)
    obtain ⟨ts', hts'⟩ := h.settled hl ho.loads ho.honest hf
    obtain rfl := Option.some.inj (hts.symm.trans hts'.templates)
    rw [htm', ← hlast, hts'.loaded htm' hloc]

/-- An orderly scan keeps what holds. -/
theorem Exact.scan : (t.scan files).Exact where
  exclusive hk hk' := by
    obtain ⟨f, hf, rfl, ts, hts, hmem⟩ := h.mem_keysOf_scan hl ho.loads ho.honest hk
    obtain ⟨f', hf', rfl, ts', hts', hmem'⟩ := h.mem_keysOf_scan hl ho.loads ho.honest hk'
    have hdef : f.Defines connection _ := ⟨ts, hts.templates, hmem⟩
    have hdef' : f'.Defines connection _ := ⟨ts', hts'.templates, hmem'⟩
    rw [← h.connection_eq] at hdef hdef'
    exact ho.exclusive f hf f' hf' _ hdef hdef'
  marked := by
    intro l g hg
    obtain ⟨f, hf, rfl⟩ := mem_of_lastLoad_scan hg
    obtain ⟨ts, hts⟩ := Option.isSome_iff_exists.1 (ho.loads f hf)
    obtain ⟨s, -, hafter⟩ := XmlFile.markAfter_of_templates? hts t.catalog.freshness
    -- No mark is lost on the way, as no file shadows another one.
    have hmark : (t.scan files).catalog.mark? f.location = some s := by
      rw [Trail.scan, Catalog.mark?_scanned hl.nodup h.sound (he.soleOwner h) hf, hafter]
    obtain ⟨g', hg', hsig⟩ := h.marked_scan hl.nodup hmark
    rw [hg, Option.some.injEq] at hg'
    subst hg'
    exact ⟨s, hsig, hmark⟩
  loaded := by
    intro l g key _ hk
    obtain ⟨f, hf, rfl, ts, hts, hmem⟩ := h.mem_keysOf_scan hl ho.loads ho.honest hk
    exact he.owner?_scan h hl ho hf ⟨ts, hts.templates, hmem⟩

end

/-! ### Runs -/

section

variable {root : FilePath} {connection : String} {t : Trail} {files : List XmlFile}

/-- What holds after orderly requests holds of a catalog that was just opened. -/
theorem exact_opened : (opened root connection).Exact where
  exclusive hk := (nomatch hk)
  marked hg := (nomatch hg)
  loaded hg := (nomatch hg)

/-- What holds after orderly requests holds when everything is forgotten. -/
theorem Exact.invalidate : t.invalidate.Exact where
  exclusive hk := (nomatch hk)
  marked hg := (nomatch hg)
  loaded hg := (nomatch hg)

/-- What holds after orderly requests holds when a key is evicted. -/
theorem Exact.evict (he : t.Exact) (key : String) : (t.evict key).Exact := by
  have hkeys : (t.evict key).catalog.keysOf = t.catalog.keysOf := by
    funext l
    rw [Catalog.keysOf, Trail.evict, Catalog.fileKeys_evict, Catalog.keysOf]
  refine ⟨fun hk hk' => ?_, fun hg => ?_, fun hg hk => ?_⟩
  · rw [hkeys] at hk hk'
    exact he.exclusive hk hk'
  · -- The file that has the key keeps neither its mark nor its last load.
    obtain ⟨hne, hg⟩ := lastLoad_evict_of_some hg
    obtain ⟨m, hm, hmark⟩ := he.marked hg
    exact ⟨m, hm, by rw [Trail.evict, Catalog.mark?_evict, if_neg hne, hmark]⟩
  · obtain ⟨hne, hg⟩ := lastLoad_evict_of_some hg
    rw [hkeys] at hk
    have howner := he.loaded hg hk
    rw [Catalog.owner?, Trail.evict, Catalog.template?_evict, if_neg]
    · exact howner
    · rintro rfl
      exact hne howner

/-- What holds after orderly requests does not depend on how many scans there were. -/
theorem Exact.with_scans (he : t.Exact) (n : Nat) :
    Exact { t with catalog := { t.catalog with scans := n } } :=
  ⟨he.exclusive, he.marked, he.loaded⟩

/-- What holds after orderly requests. -/
theorem Run.exact (h : Run Orderly root connection t) : t.Exact := by
  induction h with
  | opened => exact exact_opened
  | @next t h r disk hdisk hgood ih =>
    have hinv : t.Inv root connection := h.inv
    by_cases hs : r.scans t.catalog = true
    · rw [next_of_scans disk hs, Trail.reload]
      -- A scan that cannot list the files only counts as a scan.
      cases hl : disk.xmlFiles t.catalog.root with
      | error e => exact ih.with_scans _
      | ok files =>
        have hlisted : Listed root files := hinv.root_eq ▸ Disk.listed_of_xmlFiles hdisk hl
        exact ih.scan hinv hlisted (hgood hs files hl)
    · cases r with
      | lookup key =>
        have hfound : ¬ (t.catalog.find? key).isNone = true := hs
        rwa [Trail.next, if_neg hfound]
      | reload => exact absurd rfl hs
      | evict key => exact ih.evict key
      | invalidate => exact Exact.invalidate

/-! ### In front of the same directory -/

/-- To a catalog that was just opened files are orderly if they are so to one with a history. -/
theorem Orderly.opened (ho : t.Orderly files) (h : t.Inv root connection) :
    (opened root connection).Orderly files := by
  obtain ⟨hload, hexclusive, -⟩ := ho
  rw [Loads, h.connection_eq] at hload
  rw [h.connection_eq] at hexclusive
  exact ⟨hload, hexclusive, fun f hf g hg => nomatch hg⟩

/-- The paths of the files that a scan reads. -/
theorem Exact.paths_readsOf (he : t.Exact) (h : t.Inv root connection) (hload : t.Loads files) :
    (t.catalog.readsOf files).map Prod.fst = (files.filter t.needsLoad).map XmlFile.path := by
  induction files with
  | nil => rfl
  | cons f files ih =>
    have hrest := ih fun g hg => hload g (List.mem_cons_of_mem f hg)
    obtain ⟨ts, hts⟩ := Option.isSome_iff_exists.1 (hload f List.mem_cons_self)
    rw [Catalog.readsOf] at hrest
    rw [Catalog.readsOf, Freshness.reads_cons, List.map_append, hrest]
    -- A file is read exactly if it is not passed over, since every file here can be loaded.
    cases hcur : t.catalog.isFresh f with
    | true =>
      have hread : t.catalog.freshness.read? t.catalog.defaultConnection f = none := if_pos hcur
      rw [hread, List.filter_cons_of_neg]
      · rfl
      · simp [he.needsLoad_eq h, hcur]
    | false =>
      have hread : t.catalog.freshness.read? t.catalog.defaultConnection f = some (f.path, ts) := by
        rw [Freshness.read?, if_neg (Bool.not_eq_true _ ▸ hcur), hts]
        rfl
      rw [hread, List.filter_cons_of_pos]
      · rfl
      · simp [he.needsLoad_eq h, hcur]

/-- **A catalog that is kept up to date is as good as a new one.** After orderly requests, and a
    scan of files that are orderly still, every key has the template that it has in a catalog which
    was opened just now and has scanned the same disk. The scan has read the files that are new,
    look different, or were evicted from or forgotten since they were loaded, and no others. -/
theorem Run.incremental (h : Run Orderly root connection t) {disk : Disk} (hdisk : disk.WellNamed)
    (hlist : disk.xmlFiles root = .ok files) (ho : t.Orderly files) (r : Catalog.Request)
    (hr : r.scans t.catalog = true) :
    (∀ key, (r.apply t.catalog disk).template? key =
        ((Catalog.opened root connection).reload disk).2.template? key) ∧
      ∃ report, (t.catalog.reload disk).1 = .ok report ∧
        report.parsed = (files.filter t.needsLoad).length ∧
        (survey t.catalog files).loaded.map Prod.fst =
          (files.filter t.needsLoad).map XmlFile.path := by
  have hinv : t.Inv root connection := h.inv
  have hl : Listed root files := Disk.listed_of_xmlFiles hdisk hlist
  have hreads := h.exact.paths_readsOf hinv ho.loads
  refine ⟨fun key => ?_, ?_⟩
  · -- A new catalog has a history, too, with nothing in it; so both give what the files give.
    have hroot : t.catalog.root = root := hinv.root_eq
    have hleft : r.apply t.catalog disk = (t.scan files).catalog := by
      rw [← catalog_next, next_of_scans disk hr, Trail.reload, hroot, hlist]
    have hright : ((Catalog.opened root connection).reload disk).2 =
        ((Trail.opened root connection).scan files).catalog := by
      have hroot' : (Trail.opened root connection).catalog.root = root := rfl
      show ((Trail.opened root connection).catalog.reload disk).2 = _
      rw [← catalog_reload, Trail.reload, hroot', hlist]
    rw [hleft, hright]
    refine Option.ext fun tm => ?_
    rw [h.exact.template?_scan_eq_some_iff hinv hl ho,
      exact_opened.template?_scan_eq_some_iff inv_opened hl (ho.opened hinv)]
  · have hreport := t.catalog.report_scan hl.nodup
    rw [← hlist, ← hinv.root_eq, ← Catalog.reload] at hreport
    refine ⟨_, hreport, ?_, ?_⟩
    · rw [← List.length_map Prod.fst, hreads, List.length_map]
    · rw [loaded_survey t.catalog hl.nodup, ← Catalog.readsOf, hreads]

end

/-! ### Keys that change places -/

open QueryFile

/-- The names of the queries differ in lower case, too. -/
theorem lowercase_queryNames : ∀ name ∈ queryNames, ∀ name' ∈ queryNames,
    Text.lowercase name = Text.lowercase name' → name = name' := by
  decide +kernel

/-- Query files are exclusive if no query is in two of them. -/
theorem exclusive_listed {entries : List QueryFile} (hn : ∀ e ∈ entries, e.query ∈ queryNames)
    (h : ∀ e ∈ entries, ∀ e' ∈ entries, e.query = e'.query → e.file = e'.file)
    (connection : String) : ∀ f ∈ entries.map listed, ∀ g ∈ entries.map listed, ∀ key,
      f.Defines connection key → g.Defines connection key → f.location = g.location := by
  have hkey : ∀ e ∈ entries, ∀ key, e.listed.Defines connection key →
      key = Text.lowercase e.query := by
    rintro e he key ⟨ts, hts, hk⟩
    rw [templates?_listed (hn e he), Option.some.injEq] at hts
    subst hts
    exact List.mem_singleton.1 hk
  intro f hf g hg key hdef hdef'
  obtain ⟨e, he, rfl⟩ := List.mem_map.1 hf
  obtain ⟨e', he', rfl⟩ := List.mem_map.1 hg
  have hquery := lowercase_queryNames e.query (hn e he) e'.query (hn e' he')
    ((hkey e he key hdef).symm.trans (hkey e' he' key hdef'))
  have hfile := h e he e' he' hquery
  rw [XmlFile.location, XmlFile.location, listed, listed, hfile]

/-- Two query files that look the same were written at the same time. -/
theorem modified_eq_of_signature {e e' : QueryFile} (h : e.listed.signature = e'.listed.signature) :
    e.modified = e'.modified := by
  have hs : e.signature = e'.signature := Except.ok.inj h
  exact Option.some.inj (congrArg Signature.modified hs)

/-- Three files with a key each. -/
def shelf : List QueryFile := [⟨"a.xml", 100, "K"⟩, ⟨"b.xml", 100, "L"⟩, ⟨"c.xml", 100, "M"⟩]

/-- The files after the first two have changed keys. -/
def swapped : List QueryFile := [⟨"a.xml", 200, "L"⟩, ⟨"b.xml", 200, "K"⟩, ⟨"c.xml", 100, "M"⟩]

theorem sublist_shelf : (shelf.map file).Sublist fileNames := by decide

theorem sublist_swapped : (swapped.map file).Sublist fileNames := by decide

/-- All files are read, and one key is evicted. -/
def shelfTrail : Trail :=
  ((opened ⟨"."⟩ "DbContext").next (disk shelf) .reload).next (disk shelf) (.evict "k")

/-- The requests are a scan of the three files and an eviction. -/
theorem shelfTrail_eq :
    shelfTrail = ((opened ⟨"."⟩ "DbContext").scan (shelf.map listed)).evict "k" := by
  have hroot : (opened ⟨"."⟩ "DbContext").catalog.root = ⟨"."⟩ := rfl
  rw [shelfTrail, next, next, reload, hroot, xmlFiles_disk sublist_shelf]

/-- The three files are orderly to a catalog that was just opened. -/
theorem orderly_shelf : (opened ⟨"."⟩ "DbContext").Orderly (shelf.map listed) where
  loads := loads_listed _ (by decide)
  exclusive := exclusive_listed (by decide) (by decide) _
  honest f hf g hg := nomatch hg

/-- Orderly requests lead there. -/
theorem run_shelfTrail : Run Orderly ⟨"."⟩ "DbContext" shelfTrail := by
  have hdisk : (disk shelf).WellNamed := wellNamed_disk sublist_shelf
  refine .next (.next .opened .reload hdisk fun _ files hfiles => ?_) (.evict "k") hdisk
    fun hs => (nomatch hs)
  have hroot : (opened ⟨"."⟩ "DbContext").catalog.root = ⟨"."⟩ := rfl
  rw [hroot, xmlFiles_disk sublist_shelf] at hfiles
  exact Except.ok.inj hfiles ▸ orderly_shelf

/-- Two files look different; the third one is left alone. -/
theorem orderly_swapped : shelfTrail.Orderly (swapped.map listed) where
  loads := loads_listed _ (by decide)
  exclusive := exclusive_listed (by decide) (by decide) _
  honest := by
    intro f hf g hg hcur
    have hsame := run_shelfTrail.inv.signature_eq hg hcur
    rw [shelfTrail_eq] at hg
    have hlast := (lastLoad_evict_of_some hg).2
    have hkept : ∀ e ∈ shelf, e.listed.location = f.location → e.listed = g := by
      intro e he hl
      rw [← hl, lastLoad_scan_opened (nodup_listed sublist_shelf) orderly_shelf.loads
        (List.mem_map.2 ⟨e, he, rfl⟩)] at hlast
      exact Option.some.inj hlast
    simp only [swapped, List.map_cons, List.map_nil, List.mem_cons, List.not_mem_nil,
      or_false] at hf
    -- The first two files look different from before; the third is the one that was loaded.
    rcases hf with rfl | rfl | rfl
    · obtain rfl := hkept ⟨"a.xml", 100, "K"⟩ (by simp [shelf]) rfl
      exact absurd (modified_eq_of_signature hsame) (by decide)
    · obtain rfl := hkept ⟨"b.xml", 100, "L"⟩ (by simp [shelf]) rfl
      exact absurd (modified_eq_of_signature hsame) (by decide)
    · obtain rfl := hkept ⟨"c.xml", 100, "M"⟩ (by simp [shelf]) rfl
      rfl

/-- Two files have exchanged their keys: a lookup of the evicted key reads what is to be read, and
    leaves what a new catalog would have. -/
theorem Run.incremental_swapped :
    Run Orderly ⟨"."⟩ "DbContext" shelfTrail ∧ shelfTrail.Orderly (swapped.map listed) ∧
      (∀ key,
        (Catalog.Request.apply shelfTrail.catalog (disk swapped) (.lookup "k")).template? key =
        ((Catalog.opened ⟨"."⟩ "DbContext").reload (disk swapped)).2.template? key) ∧
      ∃ report, (shelfTrail.catalog.reload (disk swapped)).1 = .ok report ∧
        report.parsed = ((swapped.map listed).filter shelfTrail.needsLoad).length ∧
        (survey shelfTrail.catalog (swapped.map listed)).loaded.map Prod.fst =
          ((swapped.map listed).filter shelfTrail.needsLoad).map XmlFile.path := by
  have hscans : Catalog.Request.scans shelfTrail.catalog (.lookup "k") = true := by
    rw [Catalog.Request.scans, Option.isNone_iff_eq_none]
    exact Catalog.find?_evict _ "k"
  exact ⟨run_shelfTrail, orderly_swapped, Run.incremental run_shelfTrail
    (wellNamed_disk sublist_swapped) (xmlFiles_disk sublist_swapped) orderly_swapped (.lookup "k")
    hscans⟩

end Trail

end QueryBook
