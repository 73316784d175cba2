import QueryBook.Proofs.Catalog.Accounted
import QueryBook.Proofs.Catalog.Failed
import QueryBook.Proofs.Files.Unlistable

namespace QueryBook

open Files (Disk Listed Location FilePath Signature XmlFile)

/-!
# A bad file is set apart

A file that fails in a scan is left as it is known: the scan does what it would do if the file had
not changed, whatever else vanishes or changes in the same scan. A listing that fails changes
nothing.

* `Catalog.AlikeBut` — two catalogs that differ in what is known of one file; no step of a scan
  tells them apart.
* `Catalog.marking`, `Files.showing` — a catalog and a listing in which one file is unchanged.
* `Catalog.Isolates` — a scan in which a file fails, next to one that passes over it.
* `Trail.isolates_of_reachable` — all scans are like that, after any requests.
-/

namespace Catalog

/-- Two catalogs that differ in the mark of one file only. -/
structure AlikeBut (file : Location) (c c' : Catalog) : Prop where
  settings : c.settings = c'.settings
  templates : c.templates = c'.templates
  fileKeys : c.fileKeys = c'.fileKeys
  nextSerial : c.nextSerial = c'.nextSerial
  counts : c.parsed = c'.parsed ∧ c.skipped = c'.skipped
  mark? : ∀ l, l ≠ file → c.mark? l = c'.mark? l

namespace AlikeBut

variable {file other : Location} {c c' : Catalog}

/-- Such catalogs have the same keys noted for every file. -/
theorem keysOf (h : AlikeBut file c c') (l : Location) : c.keysOf l = c'.keysOf l := by
  rw [Catalog.keysOf, Catalog.keysOf, h.fileKeys]

/-- In such catalogs the same files are shadowed. -/
theorem shadowed_iff (h : AlikeBut file c c') (keys : List String) (l : Location) :
    c.Shadowed other keys l ↔ c'.Shadowed other keys l := by
  simp only [Shadowed, owner?, template?, h.templates, h.keysOf]

/-- The catalogs stay alike if a key is given up in both. -/
theorem releaseKey (h : AlikeBut file c c') (key : String) :
    AlikeBut file (releaseKey other c key) (Catalog.releaseKey other c' key) := by
  -- Who has the key does not depend on the marks, so both catalogs take the same branch.
  have howns : c.owns other key = c'.owns other key := by rw [owns, owns, h.templates]
  refine ⟨?_, ?_, ?_, ?_, ?_, fun l hl => ?_⟩
  · rw [settings_releaseKey, settings_releaseKey, h.settings]
  · simp only [Catalog.releaseKey, howns]
    split
    · simp only [releaseShadowed, h.templates]
    · exact h.templates
  · rw [fileKeys_releaseKey, fileKeys_releaseKey, h.fileKeys]
  · simp only [Catalog.releaseKey, howns]
    split
    · exact h.nextSerial
    · exact h.nextSerial
  · simp only [Catalog.releaseKey, howns]
    split
    · exact h.counts
    · exact h.counts
  · rw [mark?_releaseKey, mark?_releaseKey, h.mark? l hl]
    simp only [h.shadowed_iff]

theorem releaseFile (h : AlikeBut file c c') :
    AlikeBut file (c.releaseFile other) (c'.releaseFile other) := by
  have hstart : AlikeBut file { c with fileKeys := c.fileKeys.erase other }
      { c' with fileKeys := c'.fileKeys.erase other } :=
    ⟨h.settings, h.templates, congrArg (·.erase other) h.fileKeys, h.nextSerial, h.counts, h.mark?⟩
  rw [releaseFile_eq, releaseFile_eq, h.keysOf]
  exact List.foldl_rel hstart fun key _ _ _ hrest => hrest.releaseKey key

theorem dropFile (h : AlikeBut file c c') :
    AlikeBut file (c.dropFile other) (c'.dropFile other) := by
  refine releaseFile ⟨h.settings, h.templates, h.fileKeys, h.nextSerial, h.counts, fun l hl => ?_⟩
  have hmark : c.freshness.get? l = c'.freshness.get? l := h.mark? l hl
  simp only [Catalog.mark?, Freshness.forget, Dictionary.get?_erase, hmark]

theorem install (h : AlikeBut file c c') (t : Template) :
    AlikeBut file (c.install t) (c'.install t) :=
  ⟨h.settings, by rw [Catalog.install, Catalog.install, h.templates, h.nextSerial], h.fileKeys,
    congrArg (· + 1) h.nextSerial, h.counts, h.mark?⟩

/-- The catalogs stay alike if the templates of a file are taken in both. -/
theorem installFile (h : AlikeBut file c c') (path : FilePath) (ts : List Template) :
    AlikeBut file (c.installFile path ts) (c'.installFile path ts) := by
  have hinstalled : AlikeBut file (ts.foldl Catalog.install (c.releaseFile path.parts))
      (ts.foldl Catalog.install (c'.releaseFile path.parts)) :=
    List.foldl_rel h.releaseFile fun t _ _ _ hrest => hrest.install t
  exact ⟨hinstalled.settings, hinstalled.templates,
    congrArg (·.insert path.parts (ts.map Template.key)) hinstalled.fileKeys,
    hinstalled.nextSerial, hinstalled.counts, hinstalled.mark?⟩

end AlikeBut

/-! ### A file that is unchanged -/

/-- The catalog with a signature noted for a file. -/
def marking (c : Catalog) (file : Location) (s : Signature) : Catalog :=
  { c with freshness := c.freshness.record file s }

end Catalog

/-- A listing in which a file shows a signature. -/
def Files.showing (file : Location) (s : Signature) (files : List XmlFile) : List XmlFile :=
  files.map fun f => if f.location = file then { f with signature := .ok s } else f

namespace Catalog

/-- The catalog after a scan that finds a file unchanged, with some signature. -/
def passingOver (c : Catalog) (files : List XmlFile) (file : Location) (s : Signature) : Catalog :=
  (c.marking file s).scanned (Files.showing file s files)

section

variable {c : Catalog} {files : List XmlFile} {file : Location} {s : Signature}

/-- What a file shows does not change where the files are. -/
theorem map_location_showing :
    (Files.showing file s files).map XmlFile.location = files.map XmlFile.location := by
  rw [Files.showing, List.map_map]
  refine List.map_congr_left fun f _ => ?_
  rw [Function.comp_apply]
  split <;> rfl

/-- To note a signature changes the mark of one file. -/
theorem mark?_marking_of_ne {l : Location} (h : l ≠ file) :
    (c.marking file s).freshness.get? l = c.freshness.get? l := by
  rw [marking, Freshness.record, Dictionary.get?_insert, if_neg (Ne.symm h)]

/-- The other files of the listing are judged as before. -/
theorem isFresh_marking_of_ne {g : XmlFile} (h : g.location ≠ file) :
    (c.marking file s).isFresh g = c.isFresh g :=
  Freshness.isCurrent_congr (mark?_marking_of_ne h)

/-- A file is passed over if it shows the signature that is noted for it. -/
theorem isFresh_marking_self {f : XmlFile} (h : f.location = file) :
    (c.marking file s).isFresh { f with signature := .ok s } = true := by
  refine isFresh_iff.2 ⟨s, rfl, ?_⟩
  rw [mark?, marking, Freshness.record, Dictionary.get?_insert]
  exact if_pos h.symm

section

variable (hd : (files.map XmlFile.location).Nodup) {f : XmlFile} (hf : f ∈ files)
include hd hf

/-- The same files are read, for the one that is unchanged could not be. -/
theorem readsOf_showing {fault : LoadFault} (hfault : f.fault? c.defaultConnection = some fault) :
    (c.marking f.location s).readsOf (Files.showing f.location s files) = c.readsOf files := by
  rw [readsOf, readsOf, Freshness.reads, Freshness.reads, Files.showing, List.filterMap_map]
  -- File by file: the one that fails gives nothing in either listing.
  refine List.filterMap_congr fun g hg => ?_
  rw [Function.comp_apply, Freshness.read?, Freshness.read?]
  by_cases hl : g.location = f.location
  · obtain rfl := List.inj_on_of_nodup_map hd hg hf hl
    have hfresh : (c.marking g.location s).isFresh { g with signature := .ok s } = true :=
      isFresh_marking_self rfl
    have hnone := XmlFile.templates?_eq_none_iff.2 ⟨fault, hfault⟩
    rw [isFresh] at hfresh
    rw [if_pos rfl, if_pos hfresh, hnone]
    split <;> rfl
  · have hsame : (c.marking f.location s).isFresh g = c.isFresh g := isFresh_marking_of_ne hl
    rw [isFresh, isFresh] at hsame
    rw [if_neg hl, hsame]
    rfl

/-- The same files fail but the one that is unchanged. -/
theorem failuresOf_showing :
    (c.marking f.location s).failuresOf (Files.showing f.location s files) =
      (c.failuresOf files).filter fun e => e.path.parts ≠ f.location := by
  rw [failuresOf, failuresOf, Files.showing, List.filterMap_map, List.filter_filterMap]
  refine List.filterMap_congr fun g hg => ?_
  rw [Function.comp_apply, Freshness.failure?, Freshness.failure?]
  -- The file itself is passed over now; any other one keeps its mark and its failure.
  by_cases hl : g.location = f.location
  · obtain rfl := List.inj_on_of_nodup_map hd hg hf hl
    have hfresh : (c.marking g.location s).isFresh { g with signature := .ok s } = true :=
      isFresh_marking_self rfl
    rw [isFresh] at hfresh
    rw [if_pos rfl, if_pos hfresh]
    split
    · rfl
    · cases g.fault? c.defaultConnection <;> simp [XmlFile.location, Option.filter]
  · have hsame : (c.marking f.location s).isFresh g = c.isFresh g := isFresh_marking_of_ne hl
    have hpath : g.path.parts ≠ f.location := hl
    rw [isFresh, isFresh] at hsame
    rw [if_neg hl, hsame]
    split
    · rfl
    · change (g.fault? c.defaultConnection).map _ = _
      cases g.fault? c.defaultConnection <;> simp [hpath, Option.filter]

/-- One file more is passed over. -/
theorem countP_isFresh_showing (hcur : c.isFresh f = false) :
    (Files.showing f.location s files).countP (c.marking f.location s).isFresh =
      files.countP c.isFresh + 1 := by
  -- The file stands in the listing once, so the others are those before it and behind it.
  obtain ⟨before, after, rfl⟩ := List.append_of_mem hf
  have hself : (c.marking f.location s).isFresh { f with signature := .ok s } = true :=
    isFresh_marking_self rfl
  have hne : ∀ g ∈ before ++ after, g.location ≠ f.location := by
    rw [List.map_append, List.map_cons, List.nodup_middle, ← List.map_append] at hd
    exact fun g hg he => (List.nodup_cons.1 hd).1 (List.mem_map.2 ⟨g, hg, he⟩)
  have hothers : ∀ others ⊆ before ++ after,
      (Files.showing f.location s others).countP (c.marking f.location s).isFresh =
        others.countP c.isFresh := by
    intro others hsub
    rw [Files.showing, List.countP_map]
    refine List.countP_congr fun g hg => ?_
    have hg := hne g (hsub hg)
    rw [Function.comp_apply, if_neg hg, isFresh_marking_of_ne hg]
  have hsplit : Files.showing f.location s (before ++ f :: after) =
      Files.showing f.location s before ++
        { f with signature := .ok s } :: Files.showing f.location s after := by
    simp [Files.showing]
  rw [hsplit, List.countP_append, List.countP_cons, if_pos hself, List.countP_append,
    List.countP_cons, if_neg (by rw [hcur]; exact Bool.false_ne_true),
    hothers before (List.subset_append_left _ _), hothers after (List.subset_append_right _ _)]
  omega

omit hf in
/-- When the files have been looked at, only the mark of the one file is another. -/
theorem alikeBut_surveyed : AlikeBut f.location (c.surveyed files)
    ((c.marking f.location s).surveyed (Files.showing f.location s files)) := by
  refine ⟨rfl, rfl, rfl, rfl, ⟨rfl, rfl⟩, fun l hl => ?_⟩
  have hmarks := mark?_marking_of_ne (c := c) (s := s) hl
  -- The mark of a listed file comes from the survey, that of any other one is kept.
  by_cases hlisted : l ∈ files.map XmlFile.location
  · obtain ⟨g, hg, rfl⟩ := List.mem_map.1 hlisted
    have hshown : g ∈ Files.showing f.location s files :=
      List.mem_map.2 ⟨g, hg, if_neg hl⟩
    have hd' : ((Files.showing f.location s files).map XmlFile.location).Nodup := by
      rwa [map_location_showing]
    rw [mark?_surveyed hd hg, mark?_surveyed hd' hshown]
    exact XmlFile.markAfter_congr hmarks.symm
  · have hout : l ∉ (Files.showing f.location s files).map XmlFile.location := by
      rwa [map_location_showing]
    rw [mark?, mark?, surveyed, surveyed, get?_freshness_survey_of_not_mem c hlisted,
      get?_freshness_survey_of_not_mem (c.marking f.location s) hout]
    exact hmarks.symm

/-- The same files are dropped and taken then. -/
theorem alikeBut_filled {fault : LoadFault} (hfault : f.fault? c.defaultConnection = some fault) :
    AlikeBut f.location (c.filled files)
      ((c.marking f.location s).filled (Files.showing f.location s files)) := by
  have hvanished : (c.marking f.location s).vanished (Files.showing f.location s files) =
      c.vanished files := by
    rw [vanished, vanished, map_location_showing]
    rfl
  rw [filled, filled, hvanished, readsOf_showing hd hf hfault]
  refine List.foldl_rel ?_ fun e _ _ _ h => h.installFile e.1 e.2
  exact List.foldl_rel (alikeBut_surveyed hd) fun l _ _ _ h => h.dropFile

end

omit s in
/-- What a scan counts, next to what it does. -/
theorem counts_scanned (hd : (files.map XmlFile.location).Nodup) :
    (c.scanned files).templates = (c.filled files).templates ∧
      (c.scanned files).parsed = (c.filled files).parsed + (c.readsOf files).length ∧
      (c.scanned files).skipped = (c.filled files).skipped + files.countP c.isFresh := by
  have hskipped := (failures_foldl_take c.defaultConnection { freshness := c.freshness } hd).2
  rw [Nat.zero_add] at hskipped
  have hfresh : files.countP c.isFresh = (survey c files).skipped := hskipped.symm
  rw [filled, readsOf, ← loaded_survey c hd, hfresh]
  exact ⟨rfl, rfl, rfl⟩

end

/-! ### A scan in which a file fails -/

/-- What a scan makes of a catalog if a file fails: what it would make of it if the file were
    unchanged. -/
structure Isolates (c : Catalog) (files : List XmlFile) (f : XmlFile) (fault : LoadFault)
    (after : Catalog) : Prop where
  /-- The failure is reported, -/
  failed : ⟨f.path, fault⟩ ∈ after.failures
  /-- and no other one goes or comes. -/
  failures : ∀ s, (c.passingOver files f.location s).failures =
    after.failures.filter fun e => e.path.parts ≠ f.location
  templates : ∀ s, after.templates = (c.passingOver files f.location s).templates
  fileKeys : ∀ s, after.fileKeys = (c.passingOver files f.location s).fileKeys
  /-- All other files are marked, -/
  marks : ∀ s l, l ≠ f.location → after.mark? l = (c.passingOver files f.location s).mark? l
  /-- read and passed over as they would be. -/
  parsed : ∀ s, after.parsed = (c.passingOver files f.location s).parsed
  skipped : ∀ s, after.skipped + 1 = (c.passingOver files f.location s).skipped
  /-- The keys that are noted for the file are those from before, -/
  noted : after.fileKeys.get? f.location = c.fileKeys.get? f.location
  /-- and so are its templates, but for the keys that other files take. -/
  stays : ∀ key t, t.location? = some f.location →
    (after.template? key = some t ↔ c.template? key = some t ∧ c.takers files key = [])

/-- A scan in which a file fails makes of the catalog what it would make of it if the file were
    unchanged. -/
theorem isolates_scanned {c : Catalog} {files : List XmlFile} {f : XmlFile} {fault : LoadFault}
    (hc : c.Sound) (hd : (files.map XmlFile.location).Nodup) (hf : f ∈ files)
    (hcur : c.isFresh f = false) (hfault : f.fault? c.defaultConnection = some fault) :
    c.Isolates files f fault (c.scanned files) := by
  have hd' : ∀ s, ((Files.showing f.location s files).map XmlFile.location).Nodup := fun s => by
    rwa [map_location_showing]
  have halike := fun s => alikeBut_filled (s := s) hd hf hfault
  have hfilled := views_scanned (c := c) hd
  have hpassing := fun s => views_scanned (c := c.marking f.location s) (hd' s)
  have hcounts := counts_scanned (c := c) hd
  have hcounts' := fun s => counts_scanned (c := c.marking f.location s) (hd' s)
  have hskip : c.Skips f := .inr (XmlFile.templates?_eq_none_iff.2 ⟨fault, hfault⟩)
  constructor
  case failed =>
    rw [failures_scanned hd]
    exact mem_failuresOf.2 ⟨f, hf, hcur, hfault, rfl⟩
  case failures =>
    intro s
    rw [passingOver, failures_scanned (hd' s), failures_scanned hd, failuresOf_showing hd hf]
  case templates =>
    intro s
    rw [hcounts.1, (halike s).templates, passingOver, (hcounts' s).1]
  case fileKeys =>
    intro s
    rw [hfilled.2.2.1, (halike s).fileKeys, passingOver, (hpassing s).2.2.1]
  case marks =>
    intro s l hl
    rw [hfilled.2.2.2, (halike s).mark? l hl, passingOver, (hpassing s).2.2.2]
  case parsed =>
    intro s
    rw [hcounts.2.1, (halike s).counts.1, passingOver, (hcounts' s).2.1,
      readsOf_showing hd hf hfault]
  case skipped =>
    intro s
    rw [hcounts.2.2, (halike s).counts.2, passingOver, (hcounts' s).2.2,
      countP_isFresh_showing hd hf hcur, Nat.add_assoc]
  case noted => exact get?_fileKeys_scanned_of_skips hd hf hskip
  case stays =>
    intro key t hl
    constructor
    · intro hafter
      refine ⟨template?_scanned_of_skips hd hc hf hskip hafter hl, ?_⟩
      by_contra htaken
      -- The last file that takes the key has it then, and this is not the one that fails.
      obtain ⟨g, hg⟩ := Option.ne_none_iff_exists'.1 (mt List.getLast?_eq_none_iff.1 htaken)
      obtain ⟨ts, t', hts, -, hsource, ht'⟩ := template?_scanned_of_taker hd hc hg
      obtain rfl := Option.some.inj (hafter.symm.trans ht')
      rw [Template.location?, hsource] at hl
      obtain rfl := List.inj_on_of_nodup_map hd (mem_takers.1 (List.mem_of_getLast? hg)).1 hf
        (Option.some.inj hl)
      rw [XmlFile.templates?_eq_none_iff.2 ⟨fault, hfault⟩] at hts
      cases hts
    · rintro ⟨hbefore, hnone⟩
      exact template?_scanned_of_takers_eq_nil hd hc hnone hf hskip hbefore hl

/-! ### A listing that fails -/

section

variable {c : Catalog} {disk : Disk} {path : FilePath} {fault : Files.Fault}

/-- A reload that cannot list the files reports this and counts a scan; nothing else changes. -/
theorem reload_of_error (h : disk.xmlFiles c.root = .error (path, fault)) :
    c.reload disk = (.error (.loadFailed path.text (.file fault)),
      { c with scans := c.scans + 1 }) := by
  rw [reload, h]
  rfl

/-- A lookup of a missing key that cannot list the files reports this. -/
theorem lookup_of_error (h : disk.xmlFiles c.root = .error (path, fault)) {key : String}
    (hkey : c.find? key = none) :
    (c.lookup disk key).1 = .error (.loadFailed path.text (.file fault)) := by
  rw [lookup, hkey, reload_of_error h]

end

end Catalog

namespace Trail

section

variable {root : FilePath} {connection : String} {t : Trail}

/-- **A bad file is set apart.** After any requests, if a file fails in a scan, the scan does what
    it would do if the file were unchanged. If the directory or one below it cannot be listed, the
    scan fails and leaves all that is known as it was. -/
theorem isolates_of_reachable (h : Reachable root connection t) {disk : Disk}
    (hdisk : disk.WellNamed) (r : Catalog.Request) (hscans : r.scans t.catalog = true) :
    (∀ files, disk.xmlFiles root = .ok files → ∀ f ∈ files, ∀ fault,
      t.catalog.isFresh f = false → f.fault? connection = some fault →
        t.catalog.Isolates files f fault (r.apply t.catalog disk)) ∧
      (disk.Unlistable root → ∃ e, (t.catalog.reload disk).1 = .error e ∧
        (∀ key, r = .lookup key → (t.catalog.lookup disk key).1 = .error e) ∧
        (r.apply t.catalog disk).templates = t.catalog.templates ∧
        (r.apply t.catalog disk).fileKeys = t.catalog.fileKeys ∧
        (r.apply t.catalog disk).freshness = t.catalog.freshness ∧
        (r.apply t.catalog disk).failures = t.catalog.failures) := by
  have hinv : t.Inv root connection := h.inv
  have happly := Catalog.Request.apply_of_scans disk hscans
  refine ⟨fun files hlist f hf fault hcur hfault => ?_, fun hunlistable => ?_⟩
  · have hnodup := (Disk.listed_of_xmlFiles hdisk hlist).nodup
    rw [happly, Catalog.reload, hinv.root_eq, hlist]
    rw [← hinv.connection_eq] at hfault
    exact Catalog.isolates_scanned hinv.sound hnodup hf hcur hfault
  · -- The files cannot be listed, so neither a reload nor a lookup gets to the survey.
    obtain ⟨⟨path, fault⟩, hlist⟩ := (Disk.exists_xmlFiles_error_iff disk root).2 hunlistable
    rw [← hinv.root_eq] at hlist
    have hreload := Catalog.reload_of_error hlist
    rw [happly, hreload]
    refine ⟨_, rfl, fun key hr => ?_, rfl, rfl, rfl, rfl⟩
    subst hr
    exact Catalog.lookup_of_error hlist (Option.isNone_iff_eq_none.1 hscans)

end

/-! ### A file that becomes malformed -/

open QueryFile

/-- The file that has the key is written again, with an ampersand that begins no entity. -/
def damaged : List QueryFile := [⟨"a.xml", 100, "K"⟩, ⟨"b.xml", 200, "&"⟩]

theorem sublist_damaged : (damaged.map file).Sublist fileNames := by decide

/-- The file that was written again cannot be read. -/
theorem fault?_damaged : (listed ⟨"b.xml", 200, "&"⟩).fault? "DbContext" =
    some (.document (.entity (.unended 0 1))) := by
  have hparse : Xml.parseDocument (text ⟨"b.xml", 200, "&"⟩) = .error (.entity (.unended 0 1)) := by
    simp only [Xml.parseDocument, text, String.toList_append, String.reduceToList]
    decide +kernel
  simp only [XmlFile.fault?, loadFile, listed, hparse]

/-- A disk whose working directory cannot be listed. -/
def closedDisk : Disk := { working := .closed (.other "Permission denied (os error 13)") }

theorem wellNamed_closedDisk : closedDisk.WellNamed := ⟨trivial, trivial⟩

/-- The working directory is why the disk cannot be listed. -/
theorem unlistable_closedDisk : closedDisk.Unlistable ⟨"."⟩ := by
  intro node hnode
  have hfind : closedDisk.find ⟨"."⟩ = .ok closedDisk.working := by
    rw [Disk.find, if_neg (by decide)]
    rfl
  obtain rfl := Except.ok.inj (hfind.symm.trans hnode)
  exact .inr (.closed _)

/-- The file that has the key becomes malformed, and then the directory cannot be listed: in both
    cases the templates stay. -/
theorem isolates_of_reachable_damaged :
    Reachable ⟨"."⟩ "DbContext" rivalTrail ∧ (disk damaged).WellNamed ∧ closedDisk.WellNamed ∧
      rivalTrail.catalog.Isolates (damaged.map listed) (listed ⟨"b.xml", 200, "&"⟩)
        (.document (.entity (.unended 0 1)))
        (Catalog.Request.reload.apply rivalTrail.catalog (disk damaged)) ∧
      (∃ e, (rivalTrail.catalog.lookup closedDisk "l").1 = .error e) ∧
      ((Catalog.Request.lookup "l").apply rivalTrail.catalog closedDisk).templates =
        rivalTrail.catalog.templates := by
  have hdisk : (disk damaged).WellNamed := wellNamed_disk sublist_damaged
  have hlist := xmlFiles_disk sublist_damaged
  have hcur : rivalTrail.catalog.isFresh (listed ⟨"b.xml", 200, "&"⟩) = false := by
    rw [rivalTrail_eq]
    decide +kernel
  have hscans : (Catalog.Request.lookup "l").scans rivalTrail.catalog = true := by
    rw [rivalTrail_eq]
    decide +kernel
  have hfailed := (isolates_of_reachable reachable_rivalTrail hdisk .reload rfl).1 _ hlist
    (listed ⟨"b.xml", 200, "&"⟩) (by simp [damaged]) _ hcur fault?_damaged
  obtain ⟨e, -, hlookup, htemplates, -⟩ := (isolates_of_reachable reachable_rivalTrail
    wellNamed_closedDisk (.lookup "l") hscans).2 unlistable_closedDisk
  exact ⟨reachable_rivalTrail, hdisk, wellNamed_closedDisk, hfailed, ⟨e, hlookup "l" rfl⟩,
    htemplates⟩

end Trail

end QueryBook
