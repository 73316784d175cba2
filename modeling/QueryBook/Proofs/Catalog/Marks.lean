import QueryBook.Proofs.Catalog.Failed
import QueryBook.Proofs.Catalog.Invariant
import QueryBook.Proofs.Catalog.Takers

namespace QueryBook

open Files (Disk Listed Location FilePath Signature XmlFile)

/-!
# Marks of files that failed

A file that fails to load after one could look at it has no mark. A file that one could not look at
keeps the mark it had, and with it is passed over when it is back and looks as it did.

* `Catalog.Releases` — a scan takes the mark of a file that it does not read.
* `Catalog.mark?_scanned_iff_of_skips` — the mark of such a file after the scan.
* `Trail.Quiet` — requests behind a scan that list no files; `Quiet.mark?_iff`: they only take marks.
* `Trail.mark?_of_failure_iff` — which of the files that failed have a mark, after any requests.
-/

namespace Catalog

/-! ### Marks that are lost -/

/-- A scan takes the mark of a file that it does not read: another file had a key that is noted for
    both, and it is gone, or it was read before any other one that gives the key. -/
def Releases (c : Catalog) (files : List XmlFile) (l : Location) : Prop :=
  ∃ key ∈ c.keysOf l, ∃ other, other ≠ l ∧ c.owner? key = some other ∧
    (other ∈ c.vanished files ∨ ∃ before e after, c.readsOf files = before ++ e :: after ∧
      e.1.parts = other ∧ ∀ d ∈ before, key ∉ d.2.map Template.key)

section

variable {c : Catalog} {l : Location}

/-- Dropping a file takes the keys from it that it has, and no others. -/
theorem owner?_dropFile (hc : c.Sound) (file : Location) (key : String) :
    (c.dropFile file).owner? key = if c.owner? key = some file then none else c.owner? key := by
  rw [owner?, template?_dropFile file hc]
  split <;> rfl

/-- A file that has a key has it noted, so the mark of any other one is lost with it. -/
theorem Sound.shadowed_iff (hc : c.Sound) {file : Location} (hne : l ≠ file) :
    c.Shadowed file (c.keysOf file) l ↔ ∃ key ∈ c.keysOf l, c.owner? key = some file := by
  constructor
  · rintro ⟨-, key, -, ho, hk⟩
    exact ⟨key, hk, ho⟩
  · rintro ⟨key, hk, ho⟩
    exact hc.shadowed ho hne hk

/-- When a file is dropped another one has no mark if it had none, or if a key that is noted for it
    belonged to the file. -/
theorem mark?_dropFile_eq_none_iff (hc : c.Sound) {file : Location} (hne : l ≠ file) :
    (c.dropFile file).mark? l = none ↔
      c.mark? l = none ∨ ∃ key ∈ c.keysOf l, c.owner? key = some file := by
  rw [mark?_dropFile, ← hc.shadowed_iff hne]
  by_cases hs : c.Shadowed file (c.keysOf file) l
  · simp [hs]
  · simp [hs, Ne.symm hne]

/-- When a file is taken another one has no mark if it had none, or if a key that is noted for it
    belonged to the file. -/
theorem mark?_installFile_eq_none_iff (hc : c.Sound) {path : FilePath} (ts : List Template)
    (hne : l ≠ path.parts) : (c.installFile path ts).mark? l = none ↔
      c.mark? l = none ∨ ∃ key ∈ c.keysOf l, c.owner? key = some path.parts := by
  rw [mark?_installFile, ← hc.shadowed_iff hne]
  by_cases hs : c.Shadowed path.parts (c.keysOf path.parts) l
  · simp [hs]
  · simp [hs]

/-- Which marks are lost to files that are gone. -/
theorem mark?_dropFiles_eq_none_iff {gone : List Location} (hc : c.Sound) (hl : l ∉ gone) :
    (c.dropFiles gone).mark? l = none ↔ c.mark? l = none ∨
      ∃ key ∈ c.keysOf l, ∃ file ∈ gone, c.owner? key = some file := by
  induction gone generalizing c with
  | nil => simp
  | cons file gone ih =>
    rw [List.mem_cons, not_or] at hl
    rw [dropFiles_cons, ih (hc.dropFile file) hl.2, mark?_dropFile_eq_none_iff hc hl.1,
      keysOf_dropFile, if_neg (Ne.symm hl.1)]
    -- The first file is dropped, and with it the keys it has, before the others are.
    constructor
    · rintro ((hmark | ⟨key, hk, ho⟩) | ⟨key, hk, other, hother, ho⟩)
      · exact .inl hmark
      · exact .inr ⟨key, hk, file, List.mem_cons_self, ho⟩
      · rw [owner?_dropFile hc] at ho
        split at ho
        · cases ho
        · exact .inr ⟨key, hk, other, List.mem_cons_of_mem file hother, ho⟩
    · rintro (hmark | ⟨key, hk, other, hother, ho⟩)
      · exact .inl (.inl hmark)
      · by_cases he : other = file
        · exact .inl (.inr ⟨key, hk, he ▸ ho⟩)
        · refine .inr ⟨key, hk, other, (List.mem_cons.1 hother).resolve_left he, ?_⟩
          rw [owner?_dropFile hc, ho, if_neg fun hs => he (Option.some.inj hs)]

/-- The files that have a key when one file more was taken. -/
theorem owner?_installFile_of_ne (hc : c.Sound) {e : FilePath × List Template}
    (hown : ∀ t ∈ e.2, t.location? = some e.1.parts) {key : String} {file : Location}
    (hne : file ≠ e.1.parts) : (c.installFile e.1 e.2).owner? key = some file ↔
      key ∉ e.2.map Template.key ∧ c.owner? key = some file := by
  rw [owner?, template?_installFile _ _ hc]
  cases hlast : lastNamed? e.2 key with
  | some t =>
    obtain ⟨hm, hk⟩ := mem_of_lastNamed? hlast
    have hkeys : key ∈ e.2.map Template.key := List.mem_map.2 ⟨t, hm, hk⟩
    rw [Option.some_or, Option.bind_some, hown t hm, Option.some.injEq]
    exact ⟨fun he => absurd he.symm hne, fun h => absurd hkeys h.1⟩
  | none =>
    rw [Option.none_or]
    -- The file that had the key lost it if it was this one, and keeps it otherwise.
    have hkeys : key ∉ e.2.map Template.key := lastNamed?_eq_none_iff.1 hlast
    by_cases ho : c.owner? key = some e.1.parts
    · rw [if_pos ho, ho, Option.some.injEq]
      exact ⟨fun he => absurd he.symm (Option.some_ne_none file), fun h => absurd h.2.symm hne⟩
    · rw [if_neg ho, owner?]
      exact ⟨fun h => ⟨hkeys, h⟩, And.right⟩

/-- Which marks of other files are lost to those that are read. -/
theorem mark?_installFiles_eq_none_iff_of_not_mem {loaded : List (FilePath × List Template)}
    (hc : c.Sound) (h : Separate loaded) (hl : l ∉ placesOf loaded) :
    (c.installFiles loaded).mark? l = none ↔ c.mark? l = none ∨
      ∃ key ∈ c.keysOf l, ∃ before e after, loaded = before ++ e :: after ∧
        c.owner? key = some e.1.parts ∧ ∀ d ∈ before, key ∉ d.2.map Template.key := by
  induction loaded generalizing c with
  | nil => simp
  | cons d loaded ih =>
    -- The mark is lost to the first file, or later to one whose key the first one has not taken.
    rw [placesOf, List.map_cons, List.mem_cons, not_or] at hl
    rw [installFiles_cons, ih (hc.installFile h.own_head) h.tail hl.2,
      mark?_installFile_eq_none_iff hc d.2 hl.1, keysOf_installFile, if_neg (Ne.symm hl.1)]
    have hlater : ∀ {before e after}, loaded = before ++ e :: after → e.1.parts ≠ d.1.parts :=
      fun he hparts => h.head_not_mem (List.mem_map.2 ⟨_, he ▸ by simp, hparts⟩)
    constructor
    · rintro ((hmark | ⟨key, hk, ho⟩) | ⟨key, hk, before, e, after, hloaded, ho, hbefore⟩)
      · exact .inl hmark
      · exact .inr ⟨key, hk, [], d, loaded, rfl, ho, List.forall_mem_nil _⟩
      · rw [owner?_installFile_of_ne hc h.own_head (hlater hloaded)] at ho
        exact .inr ⟨key, hk, d :: before, e, after, by rw [hloaded, List.cons_append], ho.2,
          List.forall_mem_cons.2 ⟨ho.1, hbefore⟩⟩
    · rintro (hmark | ⟨key, hk, before, e, after, hloaded, ho, hbefore⟩)
      · exact .inl (.inl hmark)
      · cases before with
        | nil =>
          obtain ⟨rfl, -⟩ := List.cons.inj hloaded
          exact .inl (.inr ⟨key, hk, ho⟩)
        | cons d' before =>
          obtain ⟨rfl, hrest⟩ := List.cons.inj hloaded
          obtain ⟨hd, hbefore⟩ := List.forall_mem_cons.1 hbefore
          exact .inr ⟨key, hk, before, e, after, hrest,
            (owner?_installFile_of_ne hc h.own_head (hlater hrest)).2 ⟨hd, ho⟩, hbefore⟩

/-- A file that stays has the keys that it had. -/
theorem owner?_dropFiles_of_not_mem {gone : List Location} (hc : c.Sound) {file : Location}
    (hfile : file ∉ gone) (key : String) :
    (c.dropFiles gone).owner? key = some file ↔ c.owner? key = some file := by
  induction gone generalizing c with
  | nil => rfl
  | cons other gone ih =>
    rw [List.mem_cons, not_or] at hfile
    rw [dropFiles_cons, ih (hc.dropFile other) hfile.2, owner?_dropFile hc]
    by_cases ho : c.owner? key = some other
    · rw [if_pos ho, ho, Option.some.injEq]
      exact ⟨fun he => absurd he.symm (Option.some_ne_none file),
        fun he => absurd he.symm hfile.1⟩
    · rw [if_neg ho]

/-! ### A scan -/

variable {files : List XmlFile} {f : XmlFile} (hd : (files.map XmlFile.location).Nodup)
include hd

/-- After a scan a file that it skips has no mark if looking at it gave it none, or if another file
    has taken its mark. -/
theorem mark?_scanned_eq_none_iff_of_skips (hc : c.Sound) (hf : f ∈ files) (hskip : c.Skips f) :
    (c.scanned files).mark? f.location = none ↔
      f.markAfter c.defaultConnection c.freshness = none ∨ c.Releases files f.location := by
  have hs : (c.surveyed files).Sound := hc.surveyed
  have hgone : f.location ∉ c.vanished files := not_mem_vanished hf
  have hread : f.location ∉ placesOf (c.readsOf files) := not_mem_placesOf_readsOf hd hf hskip
  have hkeys : ((c.surveyed files).dropFiles (c.vanished files)).keysOf f.location =
      c.keysOf f.location := by
    rw [keysOf, get?_fileKeys_dropFiles, if_neg hgone]
    rfl
  -- Files that are read are not among those that are gone, so they keep what they have.
  have howner : ∀ {before e after} key, c.readsOf files = before ++ e :: after →
      (((c.surveyed files).dropFiles (c.vanished files)).owner? key = some e.1.parts ↔
        c.owner? key = some e.1.parts) := by
    intro before e after key he
    refine owner?_dropFiles_of_not_mem hs (fun hm => (mem_vanished.1 hm).2 ?_) key
    exact Freshness.placesOf_reads_sublist.subset
      (List.mem_map.2 ⟨e, (he ▸ by simp : e ∈ c.readsOf files), rfl⟩)
  rw [(views_scanned hd).2.2.2, filled, mark?_installFiles_eq_none_iff_of_not_mem
    (hs.dropFiles _) (separate_readsOf hd) hread, mark?_dropFiles_eq_none_iff hs hgone,
    mark?_surveyed hd hf, hkeys, or_assoc]
  refine or_congr_right ?_
  constructor
  · rintro (⟨key, hk, other, hother, ho⟩ | ⟨key, hk, before, e, after, he, ho, hbefore⟩)
    · exact ⟨key, hk, other, fun hl => hgone (hl ▸ hother), ho, .inl hother⟩
    · refine ⟨key, hk, e.1.parts, fun hl => hread ?_, (howner key he).1 ho,
        .inr ⟨before, e, after, he, rfl, hbefore⟩⟩
      exact List.mem_map.2 ⟨e, he ▸ by simp, hl⟩
  · rintro ⟨key, hk, other, -, ho, hother | ⟨before, e, after, he, rfl, hbefore⟩⟩
    · exact .inl ⟨key, hk, other, hother, ho⟩
    · exact .inr ⟨key, hk, before, e, after, he, (howner key he).2 ho, hbefore⟩

/-- A file that is not read has the mark that it had when it was looked at, unless the scan takes
    it. -/
theorem mark?_scanned_iff_of_skips (hc : c.Sound) (hf : f ∈ files) (hskip : c.Skips f)
    {m : Signature} : (c.scanned files).mark? f.location = some m ↔
      f.markAfter c.defaultConnection c.freshness = some m ∧ ¬ c.Releases files f.location := by
  have hnone := mark?_scanned_eq_none_iff_of_skips hd hc hf hskip
  constructor
  · intro hm
    refine ⟨mark?_scanned_of_some hd hf hm, fun hreleases => ?_⟩
    rw [hnone.2 (.inr hreleases)] at hm
    cases hm
  · rintro ⟨hm, hreleases⟩
    have hmarked : (c.scanned files).mark? f.location ≠ none := by
      rw [Ne, hnone, not_or]
      exact ⟨by rw [hm]; exact Option.some_ne_none m, hreleases⟩
    obtain ⟨m', hm'⟩ := Option.ne_none_iff_exists'.1 hmarked
    rw [hm', ← mark?_scanned_of_some hd hf hm', hm]

end

end Catalog

/-- A file that fails keeps its mark exactly if one cannot look at it. -/
theorem Files.XmlFile.markAfter_eq_some_iff_of_fault? {f : XmlFile} {connection : String}
    {fr : Freshness} {fault : LoadFault} (hcur : fr.isCurrent f = false)
    (h : f.fault? connection = some fault) {m : Signature} :
    f.markAfter connection fr = some m ↔
      (∃ fault, f.signature = .error fault) ∧ fr.get? f.location = some m := by
  have hnone := templates?_eq_none_iff.2 ⟨fault, h⟩
  unfold markAfter
  unfold Freshness.isCurrent at hcur
  cases hs : f.signature with
  | error fault => simp
  | ok s =>
    rw [hs] at hcur
    simp [hcur, hnone]

namespace Trail

/-! ### Behind a scan -/

/-- A request takes the mark of a file. -/
def Takes (c : Catalog) (l : Location) : Catalog.Request → Prop
  | .evict key => c.owner? (Text.lowercase key) = some l
  | .invalidate => True
  | .lookup _ | .reload => False

/-- Requests behind a scan that do not list the files again, and the files whose marks they take. -/
inductive Quiet (s : Trail) : (Location → Prop) → Trail → Prop
  | refl : Quiet s (fun _ => False) s
  | next {taken : Location → Prop} {t : Trail} (h : Quiet s taken t) (r : Catalog.Request)
      {disk : Disk}
      (hlist : r.scans t.catalog = true → ∃ e, disk.xmlFiles t.catalog.root = .error e) :
      Quiet s (fun l => taken l ∨ Takes t.catalog l r) (t.next disk r)

section

variable {s t : Trail} {taken : Location → Prop} {disk : Disk} {r : Catalog.Request}

/-- A reload that cannot list the files is counted, no more. -/
theorem reload_of_error {e : FilePath × Files.Fault}
    (h : disk.xmlFiles t.catalog.root = .error e) :
    t.reload disk = { t with catalog := { t.catalog with scans := t.catalog.scans + 1 } } := by
  rw [reload, h]

/-- A request that lists no files takes the marks that it takes, and leaves the failures known. -/
theorem next_of_quiet
    (hlist : r.scans t.catalog = true → ∃ e, disk.xmlFiles t.catalog.root = .error e) :
    (t.next disk r).catalog.failures = t.catalog.failures ∧ ∀ l m,
      ((t.next disk r).catalog.mark? l = some m ↔
        t.catalog.mark? l = some m ∧ ¬ Takes t.catalog l r) := by
  by_cases hscans : r.scans t.catalog = true
  · -- The listing fails, and only the number of scans is another one.
    obtain ⟨e, he⟩ := hlist hscans
    rw [next_of_scans disk hscans, reload_of_error he]
    refine ⟨rfl, fun l m => ?_⟩
    cases r with
    | lookup key => simp [Takes, Catalog.mark?]
    | reload => simp [Takes, Catalog.mark?]
    | evict key => cases hscans
    | invalidate => cases hscans
  · cases r with
    | lookup key =>
      have hnext : t.next disk (.lookup key) = t := if_neg hscans
      rw [hnext]
      exact ⟨rfl, fun l m => by simp [Takes]⟩
    | reload => exact absurd rfl hscans
    | evict key =>
      refine ⟨?_, fun l m => ?_⟩
      · change (t.catalog.evict key).2.failures = _
        unfold Catalog.evict
        split <;> rfl
      · change (t.catalog.evict key).2.mark? l = some m ↔ _
        rw [Catalog.mark?_evict, Takes]
        by_cases ho : t.catalog.owner? (Text.lowercase key) = some l <;> simp [ho]
    | invalidate =>
      refine ⟨rfl, fun l m => ?_⟩
      change (none : Option Signature) = some m ↔ _
      simp [Takes]

/-- Behind a scan marks are only taken. -/
theorem Quiet.mark?_iff (h : Quiet s taken t) (l : Location) (m : Signature) :
    t.catalog.mark? l = some m ↔ s.catalog.mark? l = some m ∧ ¬ taken l := by
  induction h with
  | refl => simp
  | next h r hlist ih =>
    rw [(next_of_quiet hlist).2 l m, ih, not_or, and_assoc]

/-- Requests that do not list the files again leave the failures that are known. -/
theorem Quiet.failures_eq (h : Quiet s taken t) : t.catalog.failures = s.catalog.failures := by
  induction h with
  | refl => rfl
  | next h r hlist ih => rw [(next_of_quiet hlist).1, ih]

end

section

variable {root : FilePath} {connection : String} {t : Trail}

/-- Failures are known from the last scan that listed the files. -/
theorem exists_last_scan (h : Reachable root connection t) : t.catalog.failures = [] ∨
    ∃ (s : Trail) (disk : Disk) (files : List XmlFile) (taken : Location → Prop),
      Reachable root connection s ∧ disk.WellNamed ∧ disk.xmlFiles root = .ok files ∧
        Quiet (s.scan files) taken t := by
  induction h with
  | opened => exact .inl rfl
  | @next t h r disk hdisk _ ih =>
    have hroot : t.catalog.root = root := h.inv.root_eq
    -- Only a request that scans files that can be listed begins a new report.
    by_cases hlisted : r.scans t.catalog = true ∧ ∃ files, disk.xmlFiles root = .ok files
    · obtain ⟨hscans, files, hfiles⟩ := hlisted
      have hnext : t.next disk r = t.scan files := by
        rw [next_of_scans disk hscans, Trail.reload, hroot, hfiles]
      exact .inr ⟨t, disk, files, fun _ => False, h, hdisk, hfiles, hnext ▸ .refl⟩
    · have hlist : r.scans t.catalog = true → ∃ e, disk.xmlFiles t.catalog.root = .error e := by
        intro hscans
        rw [hroot]
        cases hfiles : disk.xmlFiles root with
        | ok files => exact absurd ⟨hscans, files, hfiles⟩ hlisted
        | error e => exact ⟨e, rfl⟩
      rcases ih with hnone | ⟨s, disk', files, taken, hs, hdisk', hfiles, hquiet⟩
      · exact .inl ((next_of_quiet hlist).1.trans hnone)
      · exact .inr ⟨s, disk', files, _, hs, hdisk', hfiles, hquiet.next r hlist⟩

/-- **Marks of files that failed.** After any requests, a file that failed in the last scan which
    listed the files has a mark exactly if one could not look at it in that scan, it had a mark
    before, and neither the scan nor a later request has taken this mark. A file without a mark is
    passed over by no scan, however it looks. -/
theorem mark?_of_failure_iff (h : Reachable root connection t) {e : Failure}
    (he : e ∈ t.catalog.failures) :
    ∃ (s : Trail) (disk : Disk) (files : List XmlFile) (taken : Location → Prop) (f : XmlFile),
      (Reachable root connection s ∧ disk.WellNamed ∧ disk.xmlFiles root = .ok files ∧
        Quiet (s.scan files) taken t) ∧
      (f ∈ files ∧ f.path = e.path ∧ f.fault? connection = some e.fault) ∧
      (∀ m, t.catalog.mark? f.location = some m ↔
        (∃ fault, f.signature = .error fault) ∧ s.catalog.mark? f.location = some m ∧
          ¬ s.catalog.Releases files f.location ∧ ¬ taken f.location) ∧
      (t.catalog.mark? f.location = none ↔
        ∀ g : XmlFile, g.location = f.location → t.catalog.isFresh g = false) := by
  rcases exists_last_scan h with hnone | ⟨s, disk, files, taken, hs, hdisk, hlist, hquiet⟩
  · rw [hnone] at he
    cases he
  · have hinv : s.Inv root connection := hs.inv
    have hd := (Disk.listed_of_xmlFiles hdisk hlist).nodup
    have hfailures : t.catalog.failures = s.catalog.failuresOf files :=
      hquiet.failures_eq.trans (Catalog.failures_scanned hd)
    rw [hfailures, Catalog.mem_failuresOf] at he
    obtain ⟨f, hf, hcur, hfault, hpath⟩ := he
    -- A file that failed gives no templates, so nothing of it is taken in.
    have hskip : s.catalog.Skips f := .inr (XmlFile.templates?_eq_none_iff.2 ⟨_, hfault⟩)
    refine ⟨s, disk, files, taken, f, ⟨hs, hdisk, hlist, hquiet⟩,
      ⟨hf, hpath, hinv.connection_eq ▸ hfault⟩, fun m => ?_, ?_⟩
    · have hscan : (s.scan files).catalog.mark? f.location = some m ↔ _ :=
        Catalog.mark?_scanned_iff_of_skips hd hinv.sound hf hskip
      rw [hquiet.mark?_iff, hscan, XmlFile.markAfter_eq_some_iff_of_fault? hcur hfault, and_assoc,
        and_assoc]
      rfl
    · constructor
      · intro hmark g hg
        rw [← Bool.not_eq_true, Catalog.isFresh_iff, hg, hmark]
        simp
      · -- If there were a mark, the file with that signature would be current.
        intro hfresh
        refine Option.eq_none_iff_forall_ne_some.2 fun m hm => ?_
        have hnot := hfresh { f with signature := .ok m } rfl
        rw [← Bool.not_eq_true, Catalog.isFresh_iff] at hnot
        exact hnot ⟨m, rfl, hm⟩

end

/-! ### A link that leads nowhere for a while -/

open QueryFile

/-- The file that has the key is a link that leads nowhere, and the other file is gone. -/
def danglingDisk : Disk := { working := .directory [("b.xml", .broken .notFound)] }

def danglingFile : XmlFile := ⟨⟨"./b.xml"⟩, .error .notFound, .error .notFound⟩

theorem wellNamed_danglingDisk : danglingDisk.WellNamed :=
  ⟨⟨⟨by decide +kernel, List.not_mem_nil⟩, trivial, trivial⟩, trivial⟩

/-- The listing of the disk is the link. -/
theorem xmlFiles_danglingDisk : danglingDisk.xmlFiles ⟨"."⟩ = .ok [danglingFile] := by
  have hfind : danglingDisk.find ⟨"."⟩ = .ok danglingDisk.working := by
    rw [Disk.find, if_neg (by decide)]
    rfl
  have hx : Files.hasXmlExtension "b.xml" = true := by decide +kernel
  have hcollect : Files.collectEntries ⟨"."⟩ [("b.xml", .broken .notFound)] =
      .ok [danglingFile] := by
    rw [Files.collectEntries, Files.Node.collect, if_pos hx]
    rfl
  have hnode : danglingDisk.xmlFiles ⟨"."⟩ = danglingDisk.working.xmlFiles ⟨"."⟩ := by
    rw [Disk.xmlFiles, hfind]
  rw [hnode, danglingDisk, Files.Node.xmlFiles, hcollect]
  exact congrArg Except.ok (List.mergeSort_singleton danglingFile)

/-- Both files were read before. -/
def danglingTrail : Trail := rivalTrail.next danglingDisk .reload

theorem reachable_danglingTrail : Reachable ⟨"."⟩ "DbContext" danglingTrail :=
  .next reachable_rivalTrail .reload wellNamed_danglingDisk fun _ _ _ => trivial

/-- The requests are a scan of both files and a scan of the link. -/
theorem danglingTrail_eq : danglingTrail =
    ((opened ⟨"."⟩ "DbContext").scan (rivals.map listed)).scan [danglingFile] := by
  rw [danglingTrail, next, reload, reachable_rivalTrail.inv.root_eq, xmlFiles_danglingDisk,
    rivalTrail_eq]

/-- The link has failed in the second scan. -/
theorem failures_danglingTrail :
    danglingTrail.catalog.failures = [⟨⟨"./b.xml"⟩, .file .notFound⟩] := by
  have hd : ([danglingFile].map XmlFile.location).Nodup := List.nodup_singleton _
  rw [danglingTrail_eq]
  exact Catalog.failures_scanned hd

/-- The link has failed and still has the mark from the first scan, as its signature could not be
    read and no other file took the mark. -/
theorem mark?_of_failure_iff_dangling :
    Reachable ⟨"."⟩ "DbContext" danglingTrail ∧
      (⟨⟨"./b.xml"⟩, .file .notFound⟩ : Failure) ∈ danglingTrail.catalog.failures ∧
      ∃ (s : Trail) (files : List XmlFile) (taken : Location → Prop) (f : XmlFile),
        f ∈ files ∧ f.path = ⟨"./b.xml"⟩ ∧ Quiet (s.scan files) taken danglingTrail ∧
          ∀ m, danglingTrail.catalog.mark? f.location = some m ↔
            (∃ fault, f.signature = .error fault) ∧ s.catalog.mark? f.location = some m ∧
              ¬ s.catalog.Releases files f.location ∧ ¬ taken f.location := by
  have he : (⟨⟨"./b.xml"⟩, .file .notFound⟩ : Failure) ∈ danglingTrail.catalog.failures := by
    rw [failures_danglingTrail]
    exact List.mem_singleton.2 rfl
  obtain ⟨s, disk, files, taken, f, ⟨-, -, -, hquiet⟩, ⟨hf, hpath, -⟩, hmark, -⟩ :=
    mark?_of_failure_iff reachable_danglingTrail he
  exact ⟨reachable_danglingTrail, he, s, files, taken, f, hf, hpath, hquiet, hmark⟩

theorem sublist_restored : ([⟨"b.xml", 100, "L"⟩].map file).Sublist fileNames := by decide

/-- The mark of a link that leads nowhere stays. When the link leads to a file again which looks as
    the one before, this is passed over although the last scan reported it, and its key is missing
    after the next scan. -/
theorem exists_mark?_of_failure :
    ∃ (t : Trail) (e : Failure) (disk : Disk) (f : XmlFile), Reachable ⟨"."⟩ "DbContext" t ∧
      e ∈ t.catalog.failures ∧ (∃ m, t.catalog.mark? e.path.parts = some m) ∧
      disk.WellNamed ∧ disk.xmlFiles ⟨"."⟩ = .ok [f] ∧ f.location = e.path.parts ∧
      f.Defines "DbContext" "l" ∧ t.catalog.isFresh f = true ∧
      (t.next disk .reload).catalog.template? "l" = none := by
  have hroot : danglingTrail.catalog.root = ⟨"."⟩ := reachable_danglingTrail.inv.root_eq
  have hlist := xmlFiles_disk sublist_restored
  have hnext : danglingTrail.next (disk [⟨"b.xml", 100, "L"⟩]) .reload =
      danglingTrail.scan [listed ⟨"b.xml", 100, "L"⟩] := by
    rw [next_of_scans _ rfl, Trail.reload, hroot, hlist]
    rfl
  have hfresh : danglingTrail.catalog.isFresh (listed ⟨"b.xml", 100, "L"⟩) = true := by
    rw [danglingTrail_eq]
    decide +kernel
  obtain ⟨m, -, hm⟩ := Catalog.isFresh_iff.1 hfresh
  refine ⟨danglingTrail, ⟨⟨"./b.xml"⟩, .file .notFound⟩, disk [⟨"b.xml", 100, "L"⟩],
    listed ⟨"b.xml", 100, "L"⟩, reachable_danglingTrail, ?_, ⟨m, hm⟩,
    wellNamed_disk sublist_restored, hlist, by decide +kernel,
    ⟨_, templates?_listed (by decide) "DbContext", by decide +kernel⟩, hfresh, ?_⟩
  · rw [failures_danglingTrail]
    exact List.mem_singleton.2 rfl
  · rw [hnext, danglingTrail_eq]
    decide +kernel

end Trail

end QueryBook
