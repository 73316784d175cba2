import QueryBook.Proofs.Catalog.Scanned
import QueryBook.Proofs.Files.Locations

namespace QueryBook

open Files (Disk Location FilePath Signature XmlFile)

/-!
# Histories of a catalog

A catalog is opened once and asked many times, each time in front of another disk. Next to it stands
what it does not hold itself: which contents it has loaded, and which keys were evicted.

* `Catalog.Request`, `Catalog.Request.apply` — what is asked of a catalog, and the catalog
  afterwards.
* `Trail`, `Trail.next` — a catalog with its history; `catalog_next` says that it is the same
  catalog.
* `Trail.Run`, `Trail.Reachable` — what requests lead to, if each scan meets a given condition or
  any.
* `Trail.Loads`, `Trail.Honest` — such conditions.
-/

/-- What is asked of a catalog. -/
inductive Catalog.Request where
  | lookup (key : String)
  | reload
  | evict (key : String)
  | invalidate

namespace Catalog.Request

/-- The catalog after a request. -/
def apply (c : Catalog) (disk : Disk) : Catalog.Request → Catalog
  | lookup key => (c.lookup disk key).2
  | reload => (c.reload disk).2
  | evict key => (c.evict key).2
  | invalidate => c.invalidate

/-- Whether a request scans the directory: one for a key does if the key is missing. -/
def scans (c : Catalog) : Catalog.Request → Bool
  | lookup key => (c.find? key).isNone
  | reload => true
  | evict _ | invalidate => false

/-- Requests that scan differ in their answers only. -/
theorem apply_of_scans {c : Catalog} {r : Catalog.Request} (disk : Disk) (h : r.scans c = true) :
    r.apply c disk = (c.reload disk).2 := by
  cases r with
  | lookup key =>
    rw [scans, Option.isNone_iff_eq_none] at h
    rw [apply, Catalog.lookup, h]
    obtain ⟨answer, after⟩ := c.reload disk
    cases answer with
    | error e => rfl
    | ok report => cases hk : after.find? key <;> simp [hk]
  | reload => rfl
  | evict key => cases h
  | invalidate => cases h

end Catalog.Request

namespace Catalog

/-- A catalog that was just opened. -/
def opened (root : FilePath) (connection : String) : Catalog :=
  { root, defaultConnection := connection }

/-- This is what options lead to. -/
theorem eq_opened_of_ofOptions {o : SearchOptions} {disk : Disk} {c : Catalog}
    (h : ofOptions o disk = .ok c) : c = opened c.root o.defaultConnection := by
  unfold ofOptions at h
  cases hr : o.resolveRoot disk with
  | error e => rw [hr] at h; cases h
  | ok root =>
    rw [hr] at h
    obtain rfl := Except.ok.inj h
    rfl

/-- A key is not found if its lower case has no template. -/
theorem find?_eq_none_iff {c : Catalog} {key : String} :
    c.find? key = none ↔ c.template? (Text.lowercase key) = none := by
  rw [find?, template?, Option.map_eq_none_iff]

/-! ### Evicting -/

section

variable (c : Catalog) (key : String)

@[simp] theorem settings_evict : (c.evict key).2.settings = c.settings := by
  unfold evict
  split <;> rfl

/-- Evicting a key leaves it noted for the files that define it. -/
@[simp] theorem fileKeys_evict : (c.evict key).2.fileKeys = c.fileKeys := by
  unfold evict
  split <;> rfl

/-- Evicting removes the template of the key in lower case, and no other one. -/
theorem template?_evict (key' : String) : (c.evict key).2.template? key' =
    if Text.lowercase key = key' then none else c.template? key' := by
  unfold evict
  cases h : c.find? key with
  | none =>
    have hnone : c.template? (Text.lowercase key) = none := find?_eq_none_iff.1 h
    by_cases hk : Text.lowercase key = key'
    · rw [if_pos hk, ← hk, hnone]
    · rw [if_neg hk]
  | some loaded =>
    rw [template?, Dictionary.get?_erase]
    split <;> rfl

/-- An evicted key is missing. -/
theorem find?_evict : (c.evict key).2.find? key = none := by
  rw [find?_eq_none_iff, template?_evict, if_pos rfl]

variable {c key} in
/-- What is left was there before. -/
theorem template?_of_evict {key' : String} {t : Template}
    (h : (c.evict key).2.template? key' = some t) :
    Text.lowercase key ≠ key' ∧ c.template? key' = some t := by
  rw [template?_evict] at h
  split at h
  · cases h
  · next hne => exact ⟨hne, h⟩

variable {c} in
/-- A catalog stays sound if a key is evicted. -/
theorem Sound.evict (hc : c.Sound) : (c.evict key).2.Sound := by
  refine ⟨fun ht => hc.key_eq (template?_of_evict ht).2, fun ht => ?_⟩
  obtain ⟨l, hl, hk⟩ := hc.owned (template?_of_evict ht).2
  exact ⟨l, hl, by rw [keysOf, fileKeys_evict]; exact hk⟩

/-- The file of an evicted key does not count as loaded any more. -/
theorem mark?_evict (file : Location) : (c.evict key).2.mark? file =
    if c.owner? (Text.lowercase key) = some file then none else c.mark? file := by
  have howner : c.owner? (Text.lowercase key) =
      (c.find? key).bind fun loaded => loaded.template.location? := by
    rw [owner?, template?, find?, Option.bind_map]
    rfl
  rw [howner]
  unfold evict
  cases h : c.find? key with
  | none => simp
  | some loaded =>
    rw [Option.bind_some, mark?]
    cases hl : loaded.template.location? with
    | none => simp [hl, mark?]
    | some l => simp [hl, Freshness.forget, mark?]

end

end Catalog

/-! ### Trails -/

/-- A catalog with its history. -/
structure Trail where
  catalog : Catalog
  /-- The content that each file was loaded with, as long as the file is listed by each scan, none
      of its keys is evicted, and the catalog is not invalidated. -/
  lastLoad : Location → Option XmlFile := fun _ => none
  /-- The keys that were evicted and have not been loaded since. -/
  evicted : List String := []

namespace Trail

/-- The trail of a catalog that was just opened. -/
def opened (root : FilePath) (connection : String) : Trail :=
  { catalog := Catalog.opened root connection }

/-- The trail after a scan of files that were listed. -/
def scan (t : Trail) (files : List XmlFile) : Trail where
  catalog := t.catalog.scanned files
  lastLoad l :=
    match files.find? fun f => f.location == l with
    | none => none
    | some f =>
      if t.catalog.isFresh f = false ∧ (f.templates? t.catalog.defaultConnection).isSome then some f
      else t.lastLoad l
  evicted := t.evicted.filter fun key => ((t.catalog.scanned files).template? key).isNone

/-- The trail after a scan. One that cannot list the files is counted, no more. -/
def reload (t : Trail) (disk : Disk) : Trail :=
  match disk.xmlFiles t.catalog.root with
  | .ok files => t.scan files
  | .error _ => { t with catalog := { t.catalog with scans := t.catalog.scans + 1 } }

/-- The trail after a key is evicted. -/
def evict (t : Trail) (key : String) : Trail where
  catalog := (t.catalog.evict key).2
  lastLoad l := if t.catalog.owner? (Text.lowercase key) = some l then none else t.lastLoad l
  evicted := if (t.catalog.find? key).isSome then Text.lowercase key :: t.evicted else t.evicted

/-- The trail after everything is forgotten. -/
def invalidate (t : Trail) : Trail := { catalog := t.catalog.invalidate }

/-- The trail after a request. -/
def next (t : Trail) (disk : Disk) : Catalog.Request → Trail
  | .lookup key => if (t.catalog.find? key).isNone then t.reload disk else t
  | .reload => t.reload disk
  | .evict key => t.evict key
  | .invalidate => t.invalidate

/-- The catalog of a trail is reloaded as it would be without a history. -/
theorem catalog_reload (t : Trail) (disk : Disk) :
    (t.reload disk).catalog = (t.catalog.reload disk).2 := by
  rw [reload, Catalog.reload]
  cases disk.xmlFiles t.catalog.root <;> rfl

/-- A request that scans leads where a reload does. -/
theorem next_of_scans {t : Trail} {r : Catalog.Request} (disk : Disk)
    (h : r.scans t.catalog = true) : t.next disk r = t.reload disk := by
  cases r with
  | lookup key => exact if_pos h
  | reload => rfl
  | evict key => cases h
  | invalidate => cases h

/-- The catalog of a trail is the one that the requests lead to. -/
theorem catalog_next (t : Trail) (disk : Disk) (r : Catalog.Request) :
    (t.next disk r).catalog = r.apply t.catalog disk := by
  by_cases hs : r.scans t.catalog = true
  · rw [next_of_scans disk hs, catalog_reload, Catalog.Request.apply_of_scans disk hs]
  · cases r with
    | lookup key =>
      rw [Catalog.Request.scans, Option.isNone_iff_eq_none, ← Ne, Option.ne_none_iff_exists'] at hs
      obtain ⟨loaded, hl⟩ := hs
      rw [Catalog.Request.apply, Catalog.lookup_of_find? disk hl, next, hl]
      rfl
    | reload => exact absurd rfl hs
    | evict key => rfl
    | invalidate => rfl

/-! ### Runs -/

/-- What requests lead to, each in front of a disk of its own, if every scan that lists the files
    meets a condition. -/
inductive Run (Good : Trail → List XmlFile → Prop) (root : FilePath) (connection : String) :
    Trail → Prop
  | opened : Run Good root connection (opened root connection)
  | next {t : Trail} (h : Run Good root connection t) (r : Catalog.Request) {disk : Disk}
      (hdisk : disk.WellNamed)
      (hgood : r.scans t.catalog = true → ∀ files, disk.xmlFiles t.catalog.root = .ok files →
        Good t files) :
      Run Good root connection (t.next disk r)

/-- What any requests lead to, in front of any disks. -/
abbrev Reachable (root : FilePath) (connection : String) : Trail → Prop :=
  Run (fun _ _ => True) root connection

/-- All files of a listing can be read. -/
def Loads (t : Trail) (files : List XmlFile) : Prop :=
  ∀ f ∈ files, (f.templates? t.catalog.defaultConnection).isSome

/-- A file that looks as it did when it was loaded has the text that it had then. -/
def Honest (t : Trail) (files : List XmlFile) : Prop :=
  ∀ f ∈ files, ∀ g, t.lastLoad f.location = some g → t.catalog.isFresh f = true → f.text = g.text

end Trail

/-! ### A working directory with a few queries -/

/-- A file with one query: the name of the file, when it was written, and the name of the query. -/
structure QueryFile where
  file : String
  modified : Int
  query : String

namespace QueryFile

/-- What the text of a query file says. -/
def definition (e : QueryFile) : Definition :=
  { name := e.query, dialect := .sqlite, sql := "select 1" }

def text (e : QueryFile) : String :=
  "<r><q name=\"" ++ e.query ++ "\"><SqlDefinition type=\"sqlite\">select 1</SqlDefinition></q></r>"

def signature (e : QueryFile) : Signature := ⟨some e.modified, e.text.utf8ByteSize⟩

/-- A file of the working directory, as a listing finds it. -/
def listed (e : QueryFile) : XmlFile :=
  ⟨(FilePath.mk ".").join e.file, .ok e.signature, .ok e.text⟩

/-- A disk with some files in the working directory and nothing else. -/
def disk (entries : List QueryFile) : Disk :=
  { working := .directory (entries.map fun e => (e.file, .file ⟨e.signature, .ok e.text⟩)) }

/-- The names of the files and of the queries below. -/
def fileNames : List String := ["a.xml", "b.xml", "c.xml"]

@[inherit_doc fileNames]
def queryNames : List String := ["K", "L", "M"]

/-- The names of the files are those of entries of a directory, and end as listed files do. -/
theorem of_mem_fileNames :
    ∀ name ∈ fileNames, Files.IsEntryName name ∧ Files.hasXmlExtension name = true := by
  decide +kernel

/-- The names of the files are in the order of a listing. -/
theorem sorted_fileNames :
    (fileNames.map fun name => ((FilePath.mk ".").join name).parts).Pairwise fun l l' =>
      l ≠ l' ∧ Files.Location.le l l' = true := by
  decide +kernel

/-- The text of a query file is a document with its query. -/
theorem parseDocument_text : ∀ name ∈ queryNames,
    (Xml.parseDocument (text ⟨"", 0, name⟩)).toOption = some [definition ⟨"", 0, name⟩] := by
  -- Written out as characters the texts are read faster.
  simp only [Xml.parseDocument, text, queryNames, List.forall_mem_cons, String.toList_append,
    String.reduceToList]
  decide +kernel

/-- What a file gives whose text defines these queries. -/
theorem templates?_of_parseDocument {e : QueryFile} {ds : List Definition}
    (h : (Xml.parseDocument e.text).toOption = some ds) (connection : String) :
    e.listed.templates? connection =
      some (ds.map fun d => Template.ofDefinition d connection (some e.listed.path)) := by
  rw [XmlFile.templates?_eq_some_iff]
  refine ⟨⟨_, rfl⟩, ?_⟩
  have htext : e.listed.text = .ok e.text := rfl
  unfold loadFile
  simp only [htext]
  cases hd : Xml.parseDocument e.text with
  | error fault => rw [hd] at h; cases h
  | ok definitions =>
    rw [hd] at h
    obtain rfl : definitions = ds := Option.some.inj h
    rfl

/-- A query file gives one template, that of its query. -/
theorem templates?_listed {e : QueryFile} (he : e.query ∈ queryNames) (connection : String) :
    e.listed.templates? connection =
      some [Template.ofDefinition e.definition connection (some e.listed.path)] := by
  have hparse : (Xml.parseDocument e.text).toOption = some [e.definition] :=
    parseDocument_text e.query he
  exact templates?_of_parseDocument hparse connection

section

variable {entries : List QueryFile}

/-- All query files load. -/
theorem loads_listed (t : Trail) (h : ∀ e ∈ entries, e.query ∈ queryNames) :
    t.Loads (entries.map listed) := by
  intro f hf
  obtain ⟨e, he, rfl⟩ := List.mem_map.1 hf
  rw [templates?_listed (h e he)]
  rfl

variable (h : (entries.map file).Sublist fileNames)
include h

/-- The name of each of the files is one of those above. -/
theorem file_mem {e : QueryFile} (he : e ∈ entries) : e.file ∈ fileNames :=
  h.subset (List.mem_map.2 ⟨e, he, rfl⟩)

/-- The files of a directory are in order, and each of them is there once. -/
theorem sorted_listed : ((entries.map listed).map XmlFile.location).Pairwise fun l l' =>
    l ≠ l' ∧ Files.Location.le l l' = true := by
  have hplaces : (entries.map listed).map XmlFile.location =
      (entries.map file).map fun name => ((FilePath.mk ".").join name).parts := by
    rw [List.map_map, List.map_map]
    rfl
  rw [hplaces]
  exact sorted_fileNames.sublist (h.map _)

/-- No two of the files stand at one place. -/
theorem nodup_listed : ((entries.map listed).map XmlFile.location).Nodup :=
  (sorted_listed h).imp And.left

/-- The disk with the files has proper names only. -/
theorem wellNamed_disk : (disk entries).WellNamed := by
  have hd : (entries.map file).Nodup := List.Nodup.sublist h (by decide)
  have hn : ∀ e ∈ entries, Files.IsEntryName e.file := fun e he =>
    (of_mem_fileNames e.file (file_mem h he)).1
  clear h
  refine ⟨?_, trivial⟩
  rw [disk, Files.Node.WellNamed]
  induction entries with
  | nil => trivial
  | cons e entries ih =>
    rw [List.map_cons, List.nodup_cons] at hd
    refine ⟨⟨hn e List.mem_cons_self, fun hm => hd.1 ?_⟩, trivial, ?_⟩
    · rwa [List.map_map] at hm
    · exact ih hd.2 fun d hd => hn d (List.mem_cons_of_mem _ hd)

/-- Listing the entries of the working directory finds the files. -/
theorem collectEntries_disk : Files.collectEntries ⟨"."⟩
    (entries.map fun e => (e.file, .file ⟨e.signature, .ok e.text⟩)) =
      .ok (entries.map listed) := by
  have hx : ∀ e ∈ entries, Files.hasXmlExtension e.file = true := fun e he =>
    (of_mem_fileNames e.file (file_mem h he)).2
  clear h
  induction entries with
  | nil => rfl
  | cons e entries ih =>
    have hrest := ih fun d hd => hx d (List.mem_cons_of_mem e hd)
    rw [List.map_cons, Files.collectEntries, Files.Node.collect, if_pos (hx e List.mem_cons_self),
      hrest]
    rfl

/-- The listing of the disk is the files, in their order. -/
theorem xmlFiles_disk : (disk entries).xmlFiles ⟨"."⟩ = .ok (entries.map listed) := by
  have hs : (entries.map listed).Pairwise fun f g =>
      Files.Location.le f.location g.location = true :=
    (List.pairwise_map.1 (sorted_listed h)).imp And.right
  have hfind : (disk entries).find ⟨"."⟩ = .ok (disk entries).working := by
    rw [Disk.find, if_neg (by decide)]
    rfl
  rw [Disk.xmlFiles, hfind, disk]
  show (Files.collectEntries _ _).map _ = _
  rw [collectEntries_disk h]
  exact congrArg Except.ok (List.mergeSort_of_pairwise hs)

end

/-- Two files that define one key. The second one has it. -/
def rivals : List QueryFile := [⟨"a.xml", 100, "K"⟩, ⟨"b.xml", 100, "K"⟩]

theorem sublist_rivals : (rivals.map file).Sublist fileNames := by decide

end QueryFile

namespace Trail

open QueryFile

/-- Both files are read. -/
def rivalTrail : Trail := (opened ⟨"."⟩ "DbContext").next (disk rivals) .reload

theorem reachable_rivalTrail : Reachable ⟨"."⟩ "DbContext" rivalTrail :=
  .next .opened .reload (wellNamed_disk sublist_rivals) fun _ _ _ => trivial

/-- The reload is a scan of both files. -/
theorem rivalTrail_eq : rivalTrail = (opened ⟨"."⟩ "DbContext").scan (rivals.map listed) := by
  have hroot : (opened ⟨"."⟩ "DbContext").catalog.root = ⟨"."⟩ := rfl
  rw [rivalTrail, next, reload, hroot, xmlFiles_disk sublist_rivals]

end Trail

end QueryBook
