import QueryBook.Proofs.Catalog.Trail

namespace QueryBook

open Files (Disk Listed Location FilePath Signature XmlFile)

/-!
# What holds after any requests

The catalog and its history stay in step, whatever is asked and whatever becomes of the files.

* `Remembers` — what a catalog holds of a file whose content the history still has.
* `Trail.Inv` — the invariant; `Inv.scan`, `Inv.evict`, `Inv.invalidate` keep it.
* `Trail.Run.inv` — it holds after any requests.
* `Trail.Inv.settled` — after a scan that loads every file the catalog holds what the files give.
-/

/-- What a catalog holds of a file whose content was loaded: its keys, and of its templates no
    others than those of the content. -/
structure Remembers (root : FilePath) (connection : String) (c : Catalog) (l : Location)
    (g : XmlFile) (ts : List Template) : Prop where
  location : g.location = l
  below : ∃ names, g.Below root names
  templates : g.templates? connection = some ts
  keys : c.fileKeys.get? l = some (ts.map Template.key)
  loaded : ∀ {key tm}, c.template? key = some tm → tm.location? = some l →
    lastNamed? ts key = some tm

/-- Two catalogs that hold the same of a file remember the same. -/
theorem Remembers.mono {root : FilePath} {connection : String} {c c' : Catalog} {l : Location}
    {g : XmlFile} {ts : List Template} (h : Remembers root connection c l g ts)
    (hkeys : c'.fileKeys.get? l = c.fileKeys.get? l)
    (hloaded : ∀ {key tm}, c'.template? key = some tm → tm.location? = some l →
      c.template? key = some tm) : Remembers root connection c' l g ts :=
  ⟨h.location, h.below, h.templates, hkeys.trans h.keys, fun ht hl => h.loaded (hloaded ht hl) hl⟩

namespace Trail

/-- What holds after any requests. -/
structure Inv (root : FilePath) (connection : String) (t : Trail) : Prop where
  settings : t.catalog.settings = (root, connection)
  sound : t.catalog.Sound
  /-- A mark is the signature of the content that was loaded. -/
  marked : ∀ {l m}, t.catalog.mark? l = some m → ∃ g, t.lastLoad l = some g ∧ g.signature = .ok m
  remembers : ∀ {l g}, t.lastLoad l = some g → ∃ ts, Remembers root connection t.catalog l g ts
  /-- The files that define a missing key do not count as loaded, unless it was evicted. -/
  covers : t.catalog.Covers t.evicted []

section

variable {root : FilePath} {connection : String} {t : Trail}

/-- No request changes the directory. -/
theorem Inv.root_eq (h : t.Inv root connection) : t.catalog.root = root :=
  congrArg Prod.fst h.settings

/-- No request changes the connection of templates that name none. -/
theorem Inv.connection_eq (h : t.Inv root connection) : t.catalog.defaultConnection = connection :=
  congrArg Prod.snd h.settings

end

/-! ### A scan -/

section

variable {t : Trail} {files : List XmlFile} (hd : (files.map XmlFile.location).Nodup)
include hd

/-- A listing has one file at a place. -/
theorem find?_location {f : XmlFile} (hf : f ∈ files) :
    (files.find? fun g => g.location == f.location) = some f := by
  induction files with
  | nil => cases hf
  | cons g files ih =>
    rw [List.find?_cons]
    by_cases hl : g.location = f.location
    · obtain rfl := List.inj_on_of_nodup_map hd List.mem_cons_self hf hl
      simp
    · have hne : f ≠ g := fun he => hl (he ▸ rfl)
      simp only [beq_eq_false_iff_ne.2 hl]
      exact ih (List.nodup_cons.1 hd).2 ((List.mem_cons.1 hf).resolve_left hne)

/-- The history has the content of a file that a scan reads. -/
theorem lastLoad_scan_of_read {f : XmlFile} (hf : f ∈ files) (hcur : t.catalog.isFresh f = false)
    (hts : (f.templates? t.catalog.defaultConnection).isSome) :
    (t.scan files).lastLoad f.location = some f := by
  simp only [scan, find?_location hd hf]
  rw [if_pos ⟨hcur, hts⟩]

/-- What the history has of a file that a scan skips stays. -/
theorem lastLoad_scan_of_skips {f : XmlFile} (hf : f ∈ files) (hskip : t.catalog.Skips f) :
    (t.scan files).lastLoad f.location = t.lastLoad f.location := by
  simp only [scan, find?_location hd hf]
  rw [if_neg]
  rintro ⟨hcur, hts⟩
  rcases hskip with h | h
  · exact Bool.false_ne_true (hcur.symm.trans h)
  · rw [h] at hts
    cases hts

/-- A catalog that was just opened reads every file. -/
theorem lastLoad_scan_opened {root : FilePath} {connection : String}
    (hload : (opened root connection).Loads files) {f : XmlFile} (hf : f ∈ files) :
    ((opened root connection).scan files).lastLoad f.location = some f := by
  have hcur : (opened root connection).catalog.isFresh f = false := by
    rw [Catalog.isFresh, Freshness.isCurrent]
    cases f.signature <;> rfl
  exact lastLoad_scan_of_read hd hf hcur (hload f hf)

omit hd in
/-- After a scan the history has files of the listing only. -/
theorem mem_of_lastLoad_scan {l : Location} {g : XmlFile}
    (hg : (t.scan files).lastLoad l = some g) : ∃ f ∈ files, f.location = l := by
  simp only [scan] at hg
  split at hg
  · cases hg
  · next f hf => exact ⟨f, List.mem_of_find?_eq_some hf, eq_of_beq (List.find?_some hf :)⟩

omit hd in
/-- A scan reads a file, or it skips it. -/
theorem read_or_skips (t : Trail) (f : XmlFile) :
    (t.catalog.isFresh f = false ∧ (f.templates? t.catalog.defaultConnection).isSome) ∨
      t.catalog.Skips f := by
  unfold Catalog.Skips
  cases t.catalog.isFresh f <;> cases f.templates? t.catalog.defaultConnection <;> simp

variable {root : FilePath} {connection : String}

/-- A mark that a file has after a scan is that of the content which the history has then. -/
theorem Inv.marked_scan (h : t.Inv root connection) {l : Location} {m : Signature}
    (hm : (t.scan files).catalog.mark? l = some m) :
    ∃ g, (t.scan files).lastLoad l = some g ∧ g.signature = .ok m := by
  by_cases hl : l ∈ files.map XmlFile.location
  · obtain ⟨f, hf, rfl⟩ := List.mem_map.1 hl
    have hafter := Catalog.mark?_scanned_of_some hd hf hm
    rcases read_or_skips t f with ⟨hcur, hsome⟩ | hskip
    · obtain ⟨ts, hts⟩ := Option.isSome_iff_exists.1 hsome
      obtain ⟨s, hs, hmark⟩ := XmlFile.markAfter_of_templates? hts t.catalog.freshness
      rw [hafter, Option.some.injEq] at hmark
      exact ⟨f, lastLoad_scan_of_read hd hf hcur hsome, hmark ▸ hs⟩
    · rw [lastLoad_scan_of_skips hd hf hskip]
      exact h.marked (XmlFile.get?_of_markAfter hskip hafter)
  · -- Only files with a content in the history had marks, and these have keys noted, too.
    have hnone : (t.scan files).catalog.mark? l = none := by
      refine Catalog.mark?_scanned_of_not_mem hd hl fun hmark => ?_
      obtain ⟨m', hm'⟩ := Option.ne_none_iff_exists'.1 hmark
      obtain ⟨g, hg, -⟩ := h.marked hm'
      obtain ⟨ts, hts⟩ := h.remembers hg
      exact ⟨_, hts.keys⟩
    rw [hnone] at hm
    cases hm

/-- After a scan the catalog holds what it should of every file whose content was loaded. -/
theorem Inv.remembers_scan (h : t.Inv root connection)
    (hbelow : ∀ f ∈ files, ∃ names, f.Below root names) {l : Location} {g : XmlFile}
    (hg : (t.scan files).lastLoad l = some g) :
    ∃ ts, Remembers root connection (t.scan files).catalog l g ts := by
  obtain ⟨f, hf, rfl⟩ := mem_of_lastLoad_scan hg
  rcases read_or_skips t f with ⟨hcur, hsome⟩ | hskip
  · rw [lastLoad_scan_of_read hd hf hcur hsome, Option.some.injEq] at hg
    subst hg
    obtain ⟨ts, hts⟩ := Option.isSome_iff_exists.1 hsome
    refine ⟨ts, rfl, hbelow f hf, h.connection_eq ▸ hts, ?_, fun ht hl => ?_⟩
    · exact Catalog.get?_fileKeys_scanned_of_read hd hf hcur hts
    · exact Catalog.template?_scanned_of_read hd h.sound hf hcur hts ht hl
  · rw [lastLoad_scan_of_skips hd hf hskip] at hg
    obtain ⟨ts, hts⟩ := h.remembers hg
    refine ⟨ts, hts.mono ?_ fun ht hl => ?_⟩
    · exact Catalog.get?_fileKeys_scanned_of_skips hd hf hskip
    · exact Catalog.template?_scanned_of_skips hd h.sound hf hskip ht hl

omit hd in
/-- A scan keeps what holds. -/
theorem Inv.scan (h : t.Inv root connection) (hl : Listed root files) :
    (t.scan files).Inv root connection where
  settings := (Catalog.settings_scanned hl.nodup).trans h.settings
  sound := h.sound.scanned hl.nodup
  marked hm := h.marked_scan hl.nodup hm
  remembers hg := h.remembers_scan hl.nodup hl.below hg
  covers := by
    intro key l hnone hk hevicted
    refine Catalog.Covers.scanned hl.nodup h.sound h.covers key l hnone hk fun hm => hevicted ?_
    exact List.mem_filter.2 ⟨hm, by rw [Option.isNone_iff_eq_none]; exact hnone⟩

end

/-! ### The other requests -/

section

variable {root : FilePath} {connection : String} {t : Trail}

/-- What holds after any requests holds of a catalog that was just opened. -/
theorem inv_opened : (opened root connection).Inv root connection where
  settings := rfl
  sound := ⟨fun h => (nomatch h), fun h => (nomatch h)⟩
  marked h := nomatch h
  remembers h := nomatch h
  covers := fun _ _ _ _ _ _ => rfl

/-- What holds after any requests holds when everything is forgotten. -/
theorem Inv.invalidate (h : t.Inv root connection) : t.invalidate.Inv root connection where
  settings := h.settings
  sound := ⟨fun h => (nomatch h), fun h => (nomatch h)⟩
  marked h := nomatch h
  remembers h := nomatch h
  covers := fun _ _ _ _ _ _ => rfl

/-- Evicting a key is remembered of its file only. -/
theorem lastLoad_evict_of_some {key : String} {l : Location} {g : XmlFile}
    (hg : (t.evict key).lastLoad l = some g) :
    t.catalog.owner? (Text.lowercase key) ≠ some l ∧ t.lastLoad l = some g := by
  simp only [Trail.evict] at hg
  split at hg
  · cases hg
  · next hne => exact ⟨hne, hg⟩

/-- What holds after any requests holds when a key is evicted. -/
theorem Inv.evict (h : t.Inv root connection) (key : String) :
    (t.evict key).Inv root connection := by
  refine ⟨(Catalog.settings_evict _ _).trans h.settings, h.sound.evict key, ?_, ?_, ?_⟩
  · intro l m hm
    rw [Trail.evict, Catalog.mark?_evict] at hm
    split at hm
    · cases hm
    · next hne =>
      obtain ⟨g, hg, hs⟩ := h.marked hm
      exact ⟨g, (if_neg hne).trans hg, hs⟩
  · intro l g hg
    obtain ⟨ts, hts⟩ := h.remembers (lastLoad_evict_of_some hg).2
    refine ⟨ts, hts.mono ?_ fun ht _ => (Catalog.template?_of_evict ht).2⟩
    rw [Trail.evict, Catalog.fileKeys_evict]
  · intro key' l hnone hk hevicted hpending
    rw [Trail.evict, Catalog.template?_evict] at hnone
    rw [Trail.evict, Catalog.keysOf, Catalog.fileKeys_evict] at hk
    -- The key that is evicted just now is excepted; any other one was missing before.
    have hmissing : t.catalog.template? key' = none := by
      by_cases he : Text.lowercase key = key'
      · subst he
        rw [← Catalog.find?_eq_none_iff]
        by_contra hsome
        refine hevicted ?_
        simp only [Trail.evict, if_pos (Option.isSome_iff_ne_none.2 hsome)]
        exact List.mem_cons_self
      · rwa [if_neg he] at hnone
    have hold : key' ∉ t.evicted := by
      intro hm
      refine hevicted ?_
      simp only [Trail.evict]
      split
      · exact List.mem_cons_of_mem _ hm
      · exact hm
    rw [Trail.evict, Catalog.mark?_evict]
    split
    · rfl
    · exact h.covers key' l hmissing hk hold hpending

/-- A scan that could not list the files changes a number only. -/
theorem Inv.with_scans (h : t.Inv root connection) (n : Nat) :
    Inv root connection { t with catalog := { t.catalog with scans := n } } where
  settings := h.settings
  sound := ⟨h.sound.key_eq, h.sound.owned⟩
  marked := h.marked
  remembers hg := by
    obtain ⟨ts, hts⟩ := h.remembers hg
    exact ⟨ts, hts.mono rfl fun ht _ => ht⟩
  covers := h.covers

/-- What holds after any requests holds after a scan, whether it can list the files or not. -/
theorem Inv.reload (h : t.Inv root connection) {disk : Disk} (hdisk : disk.WellNamed) :
    (t.reload disk).Inv root connection := by
  rw [Trail.reload, h.root_eq]
  cases hl : disk.xmlFiles root with
  | error e => exact h.with_scans _
  | ok files => exact h.scan (Disk.listed_of_xmlFiles hdisk hl)

/-- A request keeps what holds. -/
theorem Inv.next (h : t.Inv root connection) {disk : Disk} (hdisk : disk.WellNamed)
    (r : Catalog.Request) : (t.next disk r).Inv root connection := by
  cases r with
  | lookup key =>
    rw [Trail.next]
    split
    · exact h.reload hdisk
    · exact h
  | reload => exact h.reload hdisk
  | evict key => exact h.evict key
  | invalidate => exact h.invalidate

/-- What holds after any requests, in front of any disks. -/
theorem Run.inv {Good : Trail → List XmlFile → Prop} (h : Run Good root connection t) :
    t.Inv root connection := by
  induction h with
  | opened => exact inv_opened
  | next h r hdisk hgood ih => exact ih.next hdisk r

end

/-! ### Files that are passed over -/

section

variable {root : FilePath} {connection : String} {t : Trail} {files : List XmlFile}

/-- A file that is passed over looks as it did when it was loaded. -/
theorem Inv.signature_eq (h : t.Inv root connection) {f g : XmlFile}
    (hg : t.lastLoad f.location = some g) (hcur : t.catalog.isFresh f = true) :
    f.signature = g.signature := by
  obtain ⟨s, hs, hmark⟩ := Catalog.isFresh_iff.1 hcur
  obtain ⟨g', hg', hgs⟩ := h.marked hmark
  rw [hg, Option.some.injEq] at hg'
  rw [hs, hg', hgs]

/-- What the catalog holds of a file that looks as it did is what the file still gives. -/
theorem Inv.remembers_of_isFresh (h : t.Inv root connection) (honest : t.Honest files) {f : XmlFile}
    (hf : f ∈ files) (hbelow : ∃ names, f.Below root names) (hcur : t.catalog.isFresh f = true) :
    ∃ ts, Remembers root connection t.catalog f.location f ts := by
  obtain ⟨s, hs, hmark⟩ := Catalog.isFresh_iff.1 hcur
  obtain ⟨g, hg, hgs⟩ := h.marked hmark
  obtain ⟨ts, hts⟩ := h.remembers hg
  obtain ⟨names, hnames⟩ := hbelow
  obtain ⟨names', hnames'⟩ := hts.below
  have hpath : f.path = g.path := hnames.path_eq hnames' hts.location.symm
  have htemplates : f.templates? connection = g.templates? connection :=
    XmlFile.templates?_congr hpath (honest f hf g hg hcur) (by rw [hs]; rfl) (by rw [hgs]; rfl)
  exact ⟨ts, rfl, ⟨names, hnames⟩, htemplates.trans hts.templates, hts.keys, hts.loaded⟩

variable (h : t.Inv root connection) (hl : Listed root files) (hload : t.Loads files)
  (honest : t.Honest files)
include h hl hload honest

/-- After a scan that loads every file the catalog holds what the files give now. -/
theorem Inv.settled {f : XmlFile} (hf : f ∈ files) :
    ∃ ts, Remembers root connection (t.scan files).catalog f.location f ts := by
  rcases read_or_skips t f with ⟨hcur, hsome⟩ | hskip
  · exact h.remembers_scan hl.nodup hl.below (lastLoad_scan_of_read hl.nodup hf hcur hsome)
  · -- It was passed over, not left out for a fault: all files load.
    have hcur : t.catalog.isFresh f = true :=
      hskip.resolve_right (Option.isSome_iff_ne_none.1 (hload f hf))
    obtain ⟨ts, hts⟩ := h.remembers_of_isFresh honest hf (hl.below f hf) hcur
    refine ⟨ts, hts.mono ?_ fun ht hloc => ?_⟩
    · exact Catalog.get?_fileKeys_scanned_of_skips hl.nodup hf hskip
    · exact Catalog.template?_scanned_of_skips hl.nodup h.sound hf hskip ht hloc

/-- What is noted after such a scan is what the files give. -/
theorem Inv.mem_keysOf_scan {key : String} {l : Location}
    (hk : key ∈ (t.scan files).catalog.keysOf l) :
    ∃ f ∈ files, f.location = l ∧ ∃ ts, Remembers root connection (t.scan files).catalog l f ts ∧
      key ∈ ts.map Template.key := by
  have hlisted : l ∈ files.map XmlFile.location := by
    by_contra hout
    rw [Catalog.keysOf, Trail.scan, Catalog.get?_fileKeys_scanned_of_not_mem hl.nodup hout] at hk
    cases hk
  obtain ⟨f, hf, rfl⟩ := List.mem_map.1 hlisted
  obtain ⟨ts, hts⟩ := h.settled hl hload honest hf
  rw [Catalog.keysOf, hts.keys] at hk
  exact ⟨f, hf, rfl, ts, hts, hk⟩

/-- Every template that is loaded then is from a listed file, which gives it still. -/
theorem Inv.exists_listed {key : String} {tm : Template}
    (hkey : (t.scan files).catalog.template? key = some tm) :
    ∃ f ∈ files, ∃ ts, Remembers root connection (t.scan files).catalog f.location f ts ∧
      tm.location? = some f.location ∧ lastNamed? ts key = some tm := by
  obtain ⟨l, hloc, hk⟩ := (h.scan hl).sound.owned hkey
  obtain ⟨f, hf, rfl, ts, hts, -⟩ := h.mem_keysOf_scan hl hload honest hk
  exact ⟨f, hf, ts, hts, hloc, hts.loaded hkey hloc⟩

end

end Trail

end QueryBook
