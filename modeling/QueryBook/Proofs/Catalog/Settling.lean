import Mathlib.Data.Fintype.EquivFin
import Mathlib.Dynamics.PeriodicPts.Defs
import QueryBook.Proofs.Catalog.Exchange
import QueryBook.Proofs.Catalog.Failed
import QueryBook.Proofs.Catalog.Unchanged

namespace QueryBook

open Files (Disk Listed Location FilePath Signature XmlFile)

/-!
# Whether scans come to rest

Scans of files that do not change any more may go on reading files for ever: a file that gives up a
key makes others lose their marks, and these may take keys from it in turn. What keeps this going
are scans in which the file that has a key and a later one take the key together: the later one
loses its mark right after it was read.

* `Catalog.Contested` — a scan in which this happens.
* `Catalog.Rests` — a scan would read no file and leave the templates as they are.
* `InStep.isFresh_rescanned_of_read` — without such a scan no file is read twice.
* `Trail.rests_iff_not_contested` — scans come to rest exactly if as many scans in a row as there
  are files are not contested.
* `Trail.exists_forall_parsed_pos` — three files that are read for ever.
-/

namespace Catalog

/-- The file that has a key and a later one take the key in one scan. -/
def Contested (c : Catalog) (files : List XmlFile) : Prop :=
  ∃ key f g more, c.takers files key = f :: g :: more ∧ c.owner? key = some f.location

/-- A scan of the directory reads no file and leaves the templates as they are. -/
def Rests (c : Catalog) (disk : Disk) : Prop :=
  ∃ report, (c.reload disk).1 = .ok report ∧ report.parsed = 0 ∧
    (c.reload disk).2.templates = c.templates

/-- The catalog after a number of scans of the same files. -/
def rescanned (c : Catalog) (files : List XmlFile) : Nat → Catalog
  | 0 => c
  | n + 1 => (c.rescanned files n).scanned files

/-- Reloading a directory that can be listed is a scan of its listing. -/
theorem reload_eq {c : Catalog} {disk : Disk} {files : List XmlFile}
    (hlist : disk.xmlFiles c.root = .ok files) :
    c.reload disk = ((c.scan (.ok files)).1, c.scanned files) := by
  rw [reload, hlist]
  rfl

/-- No key is taken if all files are passed over. -/
theorem takers_eq_nil {c : Catalog} {files : List XmlFile} (h : ∀ f ∈ files, c.isFresh f = true)
    (key : String) : c.takers files key = [] := by
  rw [List.eq_nil_iff_forall_not_mem]
  intro f hf
  obtain ⟨hm, hcur, -⟩ := mem_takers.1 hf
  exact Bool.false_ne_true (hcur.symm.trans (h f hm))

namespace InStep

variable {c : Catalog} {files : List XmlFile} (h : c.InStep files)
include h

/-! ### Scans at rest -/

/-- A scan reads nothing if it passes over all files, and only then: no other file fails. -/
theorem readsOf_eq_nil_iff : c.readsOf files = [] ↔ ∀ f ∈ files, c.isFresh f = true := by
  constructor
  · intro hnil f hf
    by_contra hcur
    obtain ⟨ts, hts, -⟩ := h.noted f hf
    have hm : (f.path, ts) ∈ c.readsOf files :=
      mem_readsOf.2 ⟨f, hf, Bool.not_eq_true _ ▸ hcur, hts, rfl⟩
    rw [hnil] at hm
    cases hm
  · intro hfresh
    rw [List.eq_nil_iff_forall_not_mem]
    intro e he
    obtain ⟨f, hf, hcur, -⟩ := mem_readsOf.1 he
    exact Bool.false_ne_true (hcur.symm.trans (hfresh f hf))

/-- A scan reports how many files it read. -/
theorem exists_report {disk : Disk} (hlist : disk.xmlFiles c.root = .ok files) :
    ∃ report, (c.reload disk).1 = .ok report ∧ report.parsed = (c.readsOf files).length := by
  rw [reload_eq hlist]
  exact ⟨_, c.report_scan h.nodup, rfl⟩

/-- A scan that reads nothing leaves the templates as they are. -/
theorem templates_scanned_of_readsOf_eq_nil (hnil : c.readsOf files = []) :
    (c.scanned files).templates = c.templates := by
  have hloaded : (survey { c with scans := c.scans + 1 } files).loaded = [] :=
    (loaded_survey _ h.nodup).trans hnil
  have hvanished : vanished { c with scans := c.scans + 1 } files = [] := h.vanished_eq_nil
  simp only [Catalog.scanned, scan, update, hloaded, hvanished, List.foldl_nil]

/-- A scan rests exactly if it passes over every file. -/
theorem rests_iff {disk : Disk} (hlist : disk.xmlFiles c.root = .ok files) :
    c.Rests disk ↔ ∀ f ∈ files, c.isFresh f = true := by
  obtain ⟨report, hreport, hparsed⟩ := h.exists_report hlist
  rw [← h.readsOf_eq_nil_iff, ← List.length_eq_zero_iff, ← hparsed]
  constructor
  · rintro ⟨report', hreport', hzero, -⟩
    obtain rfl := Except.ok.inj (hreport.symm.trans hreport')
    exact hzero
  · intro hzero
    refine ⟨report, hreport, hzero, ?_⟩
    rw [reload_eq hlist]
    exact h.templates_scanned_of_readsOf_eq_nil (List.length_eq_zero_iff.1 (hparsed ▸ hzero))

/-- A scan that passes over every file leaves them so. -/
theorem isFresh_scanned_of_isFresh (hfresh : ∀ f ∈ files, c.isFresh f = true) :
    ∀ f ∈ files, (c.scanned files).isFresh f = true := by
  intro g hg
  by_contra hcur
  obtain ⟨key, f, -, hhead, -⟩ := (h.isFresh_scanned_eq_false_iff hg).1 (Bool.not_eq_true _ ▸ hcur)
  rw [takers_eq_nil hfresh] at hhead
  cases hhead

/-! ### Several scans -/

/-- A catalog that knows the files of a listing knows them after any number of scans. -/
theorem rescanned (n : Nat) : (c.rescanned files n).InStep files := by
  induction n with
  | zero => exact h
  | succ n ih => exact ih.scanned

theorem defaultConnection_rescanned (n : Nat) :
    (c.rescanned files n).defaultConnection = c.defaultConnection := by
  induction n with
  | zero => rfl
  | succ n ih => exact (h.rescanned n).defaultConnection_scanned.trans ih

/-- Once all files are passed over they are passed over in all later scans. -/
theorem isFresh_rescanned_of_le {m n : Nat} (hmn : m ≤ n)
    (hfresh : ∀ f ∈ files, (c.rescanned files m).isFresh f = true) :
    ∀ f ∈ files, (c.rescanned files n).isFresh f = true := by
  induction hmn with
  | refl => exact hfresh
  | step _ ih => exact (h.rescanned _).isFresh_scanned_of_isFresh ih

/-- A key that was taken belongs to a file that took it since. -/
theorem exists_taker_of_taken {key : String} {m n : Nat} (hmn : m < n)
    (htaken : (c.rescanned files m).takers files key ≠ []) :
    ∃ f k, m ≤ k ∧ k < n ∧ f ∈ (c.rescanned files k).takers files key ∧
      (c.rescanned files n).owner? key = some f.location := by
  induction n with
  | zero => cases hmn
  | succ n ih =>
    have howner := (h.rescanned n).owner?_scanned key
    -- By the last scan: the key went to a taker in it, or is where the scans before left it.
    cases htake : ((c.rescanned files n).takers files key).getLast? with
    | some f =>
      rw [htake, Option.map_some, Option.some_or] at howner
      exact ⟨f, n, Nat.le_of_lt_succ hmn, n.lt_succ_self, List.mem_of_getLast? htake, howner⟩
    | none =>
      rw [htake, Option.map_none, Option.none_or] at howner
      have hne : m ≠ n := by
        rintro rfl
        exact htaken (List.getLast?_eq_none_iff.1 htake)
      obtain ⟨f, k, hmk, hkn, hf, ho⟩ := ih (by omega)
      exact ⟨f, k, hmk, by omega, hf, howner.trans ho⟩

/-- As long as no scan is contested no file is read twice. -/
theorem isFresh_rescanned_of_read {m n : Nat} {f : XmlFile} (hmn : m < n) (hf : f ∈ files)
    (hcalm : ∀ k, m ≤ k → k < n → ¬ (c.rescanned files k).Contested files)
    (hread : (c.rescanned files m).isFresh f = false) :
    (c.rescanned files n).isFresh f = true := by
  -- A file that is read twice lost its mark to one that was read twice in the time between.
  induction hd : n - m using Nat.strong_induction_on generalizing m n f with
  | _ d ih =>
    obtain ⟨k, rfl⟩ : ∃ k, n = k + 1 := ⟨n - 1, by omega⟩
    by_contra hcur
    obtain ⟨key, g, hdef, hhead, howner, hne⟩ :=
      ((h.rescanned k).isFresh_scanned_eq_false_iff hf).1 (Bool.not_eq_true _ ▸ hcur)
    rw [h.defaultConnection_rescanned] at hdef
    have htaken : f ∈ (c.rescanned files m).takers files key :=
      mem_takers.2 ⟨hf, hread, by rwa [h.defaultConnection_rescanned]⟩
    obtain ⟨more, htakers⟩ := List.head?_eq_some_iff.1 hhead
    rcases Nat.lt_or_ge m k with hmk | hkm
    · -- The file that gave the key up had taken it since.
      obtain ⟨g', j, hmj, hjk, hg', ho'⟩ := h.exists_taker_of_taken hmk (List.ne_nil_of_mem htaken)
      obtain ⟨hgm, hgk, -⟩ := mem_takers.1 (List.mem_of_head? hhead)
      obtain ⟨hgm', hgj, -⟩ := mem_takers.1 hg'
      rw [howner, Option.some.injEq] at ho'
      obtain rfl := h.eq_of_location_eq hgm hgm' ho'
      have hagain := ih (k - j) (by omega) hjk hgm
        (fun i hji hik => hcalm i (by omega) (by omega)) hgj rfl
      exact Bool.false_ne_true (hgk.symm.trans hagain)
    · -- Both took the key in the last scan.
      obtain rfl : m = k := by omega
      rw [htakers, List.mem_cons] at htaken
      have hmore : f ∈ more := htaken.resolve_left fun he => hne (he ▸ rfl)
      obtain ⟨g', more', rfl⟩ := List.exists_cons_of_ne_nil (List.ne_nil_of_mem hmore)
      exact hcalm m m.le_refl m.lt_succ_self ⟨key, g, g', more', htakers, howner⟩

/-- When no scan is contested for as many scans as there are files, one of them, or the next one,
    passes over every file. -/
theorem exists_isFresh_rescanned {n : Nat}
    (hcalm : ∀ k, n ≤ k → k < n + files.length → ¬ (c.rescanned files k).Contested files) :
    ∃ m, n ≤ m ∧ m ≤ n + files.length ∧
      ∀ f ∈ files, (c.rescanned files m).isFresh f = true := by
  by_contra hnone
  have hread : ∀ i : Fin (files.length + 1), ∃ j : Fin files.length,
      (c.rescanned files (n + i)).isFresh files[j] = false := by
    intro i
    have hi := hnone
    simp only [not_exists, not_and] at hi
    have hsome := hi (n + i) (by omega) (by omega)
    simp only [not_forall, Bool.not_eq_true] at hsome
    obtain ⟨f, hf, hcur⟩ := hsome
    obtain ⟨j, hj, rfl⟩ := List.getElem_of_mem hf
    exact ⟨⟨j, hj⟩, hcur⟩
  choose file hfile using hread
  -- One scan more than there are files, and each of them reads another one.
  have hinj : Function.Injective file := by
    have hlt : ∀ i i', i < i' → file i ≠ file i' := by
      intro i i' hii' heq
      have hagain := h.isFresh_rescanned_of_read (by omega : n + i.val < n + i'.val)
        (List.getElem_mem (file i).isLt) (fun k _ _ => hcalm k (by omega) (by omega)) (hfile i)
      have hcur := hfile i'
      rw [← heq] at hcur
      exact Bool.false_ne_true (hcur.symm.trans hagain)
    intro i i' heq
    rcases lt_trichotomy i i' with hlt' | rfl | hgt
    · exact absurd heq (hlt i i' hlt')
    · rfl
    · exact absurd heq.symm (hlt i' i hgt)
  have hcard := Fintype.card_le_of_injective file hinj
  rw [Fintype.card_fin, Fintype.card_fin] at hcard
  omega

end InStep

end Catalog

namespace Trail

/-- The trail after the first requests of a sequence, all in front of one disk. -/
def along (t : Trail) (disk : Disk) (rs : Nat → Catalog.Request) : Nat → Trail
  | 0 => t
  | n + 1 => (t.along disk rs n).next disk (rs n)

section

variable {root : FilePath} {connection : String} {t : Trail} {files : List XmlFile} {disk : Disk}
  {rs : Nat → Catalog.Request}

/-- What holds after any requests holds along a sequence of them. -/
theorem Inv.along (h : t.Inv root connection) (hdisk : disk.WellNamed) (n : Nat) :
    (t.along disk rs n).Inv root connection := by
  induction n with
  | zero => exact h
  | succ n ih => exact ih.next hdisk _

/-- Requests that all scan the same files are so many scans. -/
theorem catalog_along (h : t.Inv root connection) (hdisk : disk.WellNamed)
    (hlist : disk.xmlFiles root = .ok files)
    (hrs : ∀ n, (rs n).scans (t.along disk rs n).catalog = true) (n : Nat) :
    (t.along disk rs (n + 1)).catalog = (t.scan files).catalog.rescanned files n := by
  have hstep : ∀ m, (t.along disk rs (m + 1)).catalog =
      (t.along disk rs m).catalog.scanned files := by
    intro m
    rw [Trail.along, next_of_scans disk (hrs m), catalog_reload,
      Catalog.reload_eq (by rw [(h.along hdisk m).root_eq, hlist])]
  induction n with
  | zero => exact hstep 0
  | succ n ih => rw [hstep, ih, Catalog.rescanned]

/-- **When scans come to rest.** After any requests, in front of files that all load and have the
    texts which their marks stand for, scans of these files read no file and change no template from
    some scan on, exactly if as many of them in a row as there are files are not contested. -/
theorem rests_iff_not_contested (h : Reachable root connection t) (hdisk : disk.WellNamed)
    (hlist : disk.xmlFiles root = .ok files) (hload : t.Loads files) (honest : t.Honest files)
    (hrs : ∀ n, (rs n).scans (t.along disk rs n).catalog = true) :
    (∃ n, ∀ m, n ≤ m → (t.along disk rs m).catalog.Rests disk) ↔
      ∃ n, ∀ m, n < m → m ≤ n + files.length →
        ¬ (t.along disk rs m).catalog.Contested files := by
  have hinv : t.Inv root connection := h.inv
  have hstep := hinv.inStep_scan (Disk.listed_of_xmlFiles hdisk hlist) hload honest
  have halong := catalog_along hinv hdisk hlist hrs
  -- The first request scans, and every later one scans the same files again.
  have hrests : ∀ m, (t.along disk rs (m + 1)).catalog.Rests disk ↔
      ∀ f ∈ files, ((t.scan files).catalog.rescanned files m).isFresh f = true := by
    intro m
    have hroot : disk.xmlFiles (t.along disk rs (m + 1)).catalog.root = .ok files := by
      rw [(hinv.along hdisk (m + 1)).root_eq, hlist]
    rw [halong] at hroot ⊢
    exact (hstep.rescanned m).rests_iff hroot
  constructor
  · rintro ⟨n, hn⟩
    refine ⟨n, fun m hnm _ => ?_⟩
    obtain ⟨k, rfl⟩ : ∃ k, m = k + 1 := ⟨m - 1, by omega⟩
    rintro ⟨key, f, g, more, htakers, -⟩
    rw [halong, Catalog.takers_eq_nil ((hrests k).1 (hn (k + 1) hnm.le))] at htakers
    cases htakers
  · rintro ⟨n, hn⟩
    have hcalm : ∀ k, n ≤ k → k < n + files.length →
        ¬ ((t.scan files).catalog.rescanned files k).Contested files := by
      intro k hnk hk
      rw [← halong]
      exact hn (k + 1) (by omega) (by omega)
    obtain ⟨m, -, -, hfresh⟩ := hstep.exists_isFresh_rescanned hcalm
    refine ⟨m + 1, fun k hmk => ?_⟩
    obtain ⟨k, rfl⟩ : ∃ j, k = j + 1 := ⟨k - 1, by omega⟩
    exact (hrests k).2 (hstep.isFresh_rescanned_of_le (by omega) hfresh)

end

/-- Of two files with one key the one that has it is written again: the catalog comes to rest if
    from some scan on the key is not contested. -/
theorem rests_iff_not_contested_renewed :
    Reachable ⟨"."⟩ "DbContext" rivalTrail ∧ (QueryFile.disk renewed).WellNamed ∧
      rivalTrail.Loads (renewed.map QueryFile.listed) ∧
      rivalTrail.Honest (renewed.map QueryFile.listed) ∧
      ((∃ n, ∀ m, n ≤ m → (rivalTrail.along (QueryFile.disk renewed) (fun _ => .reload)
          m).catalog.Rests (QueryFile.disk renewed)) ↔
        ∃ n, ∀ m, n < m → m ≤ n + (renewed.map QueryFile.listed).length →
          ¬ (rivalTrail.along (QueryFile.disk renewed) (fun _ => .reload) m).catalog.Contested
            (renewed.map QueryFile.listed)) :=
  ⟨reachable_rivalTrail, QueryFile.wellNamed_disk sublist_renewed, loads_renewed, honest_renewed,
    rests_iff_not_contested reachable_rivalTrail (QueryFile.wellNamed_disk sublist_renewed)
      (QueryFile.xmlFiles_disk sublist_renewed) loads_renewed honest_renewed fun _ => rfl⟩

end Trail

/-! ### Three files that share their keys -/

namespace QueryFile

/-- What ends one query of a file and begins the next one. -/
def between : String := "\"><SqlDefinition type=\"sqlite\">select 1</SqlDefinition></q><q name=\""

/-- A file with several queries, by its name and theirs. -/
def ofKeys (e : String × List String) : QueryFile := ⟨e.1, 100, between.intercalate e.2⟩

/-- The names of three files, and the keys that each of them defines. -/
def ringKeys : List (String × List String) :=
  [("a.xml", ["k", "l", "m"]), ("b.xml", ["k", "m"]), ("c.xml", ["l", "m"])]

/-- The three files. -/
def ring : List QueryFile := ringKeys.map ofKeys

theorem sublist_ring : (ring.map file).Sublist fileNames := by decide

/-- The keys of the ring. -/
def keys : List String := ["k", "l", "m"]

/-- The files of the ring define keys of the ring. -/
theorem mem_keys : ∀ e ∈ ringKeys, ∀ key ∈ e.2, key ∈ keys := by decide

/-- The keys of the ring are in lower case. -/
theorem lowercase_keys : ∀ key ∈ keys, Text.lowercase key = key := by decide +kernel

/-- The text of each of the files is a document with its keys. -/
theorem parseDocument_ring : ∀ e ∈ ringKeys, (Xml.parseDocument (ofKeys e).text).toOption =
    some (e.2.map fun key => definition ⟨"", 0, key⟩) := by
  simp only [Xml.parseDocument, text, ofKeys, between, ringKeys, List.forall_mem_cons,
    String.toList_append, String.toList_intercalate, String.reduceToList]
  decide +kernel

/-- Each of the files defines the keys that are listed with it. -/
theorem defines_ring {e : String × List String} (he : e ∈ ringKeys) {key : String} :
    (ofKeys e).listed.Defines "DbContext" key ↔ key ∈ e.2 := by
  have hts := templates?_of_parseDocument (parseDocument_ring e he) "DbContext"
  rw [List.map_map] at hts
  have hkeys : (e.2.map fun name => Text.lowercase name) = e.2 :=
    (List.map_congr_left fun name hname => lowercase_keys name (mem_keys e he name hname)).trans
      (List.map_id _)
  rw [XmlFile.Defines, hts]
  constructor
  · rintro ⟨ts, hsome, hkey⟩
    rw [← Option.some.inj hsome, List.map_map] at hkey
    exact hkeys ▸ hkey
  · intro hkey
    refine ⟨_, rfl, ?_⟩
    rw [List.map_map]
    exact hkeys.symm ▸ hkey

/-- Where a file of the working directory is. -/
def place (name : String) : Location := ((FilePath.mk ".").join name).parts

/-- The files of the ring are told apart by their names, and by their places. -/
theorem place_eq_iff : ∀ e ∈ ringKeys, ∀ e' ∈ ringKeys,
    (place e.1 = place e'.1 ↔ e.1 = e'.1) ∧ (e.1 = e'.1 → e = e') := by
  decide +kernel

end QueryFile

/-- How the three files stand: the names of those that the next scan reads, and the name of the file
    that has a key. -/
structure Standing where
  stale : List String
  owners : List (String × String)
deriving DecidableEq

namespace Standing

open QueryFile

/-- The files that take a key in a scan, with their keys. -/
def takers (s : Standing) (key : String) : List (String × List String) :=
  ringKeys.filter fun e => s.stale.contains e.1 && e.2.contains key

/-- The file that gives a key up in a scan. -/
def giver? (s : Standing) (key : String) : Option String :=
  ((s.takers key).head?.map Prod.fst).filter fun name => s.owners.lookup key == some name

/-- The file that has a key after a scan. -/
def ownerAfter? (s : Standing) (key : String) : Option String :=
  ((s.takers key).getLast?.map Prod.fst).or (s.owners.lookup key)

/-- How the files stand after a scan. -/
def scan (s : Standing) : Standing where
  stale := (ringKeys.filter fun e => e.2.any fun key => (s.giver? key).any (· != e.1)).map Prod.fst
  owners := keys.filterMap fun key => (s.ownerAfter? key).map fun name => (key, name)

/-- How the files stand after a key is evicted. -/
def evict (s : Standing) (key : String) : Standing where
  stale := (s.owners.lookup key).toList ++ s.stale
  owners := s.owners.filter fun e => e.1 != key

/-- The files stand so in a catalog. -/
structure Describes (s : Standing) (c : Catalog) : Prop where
  inStep : c.InStep (ring.map listed)
  connection : c.defaultConnection = "DbContext"
  stale : ∀ e ∈ ringKeys, c.isFresh (ofKeys e).listed = false ↔ e.1 ∈ s.stale
  owners : ∀ key ∈ keys, ∀ e ∈ ringKeys,
    c.owner? key = some (place e.1) ↔ s.owners.lookup key = some e.1

/-- The files of the ring are listed. -/
theorem listed_mem {e : String × List String} (he : e ∈ ringKeys) :
    (ofKeys e).listed ∈ ring.map listed :=
  List.mem_map.2 ⟨_, List.mem_map.2 ⟨e, he, rfl⟩, rfl⟩

section

variable {s : Standing} {c : Catalog}

/-- A file takes a key if the next scan reads it and it defines the key. -/
theorem mem_takers {key : String} {e : String × List String} :
    e ∈ s.takers key ↔ e ∈ ringKeys ∧ e.1 ∈ s.stale ∧ key ∈ e.2 := by
  simp [takers]

/-- A file gives up a key that it has if it is the first one to take the key. -/
theorem giver?_eq_some_iff {key name : String} : s.giver? key = some name ↔
    (s.takers key).head?.map Prod.fst = some name ∧ s.owners.lookup key = some name := by
  rw [giver?, Option.filter_eq_some_iff, beq_iff_eq]

/-- The file that has a key after a scan. -/
theorem lookup_scan_owners {key : String} (hkey : key ∈ keys) :
    s.scan.owners.lookup key = s.ownerAfter? key := by
  simp only [keys, List.mem_cons, List.not_mem_nil, or_false] at hkey
  rcases hkey with rfl | rfl | rfl <;> cases hk : s.ownerAfter? "k" <;>
    cases hl : s.ownerAfter? "l" <;> cases hm : s.ownerAfter? "m" <;>
    simp [scan, keys, List.lookup_cons, hk, hl, hm]

/-- The next scan but one reads a file if another one gives up one of its keys in the next. -/
theorem mem_scan_stale {e : String × List String} (he : e ∈ ringKeys) : e.1 ∈ s.scan.stale ↔
    ∃ key ∈ e.2, ∃ name, s.giver? key = some name ∧ name ≠ e.1 := by
  have hmem : e.1 ∈ s.scan.stale ↔ (e.2.any fun key => (s.giver? key).any (· != e.1)) = true := by
    rw [scan, List.mem_map]
    constructor
    · rintro ⟨e', he', hname⟩
      rw [List.mem_filter] at he'
      obtain rfl := (place_eq_iff e' he'.1 e he).2 hname
      exact he'.2
    · exact fun hany => ⟨e, List.mem_filter.2 ⟨he, hany⟩, rfl⟩
  rw [hmem, List.any_eq_true]
  simp only [Option.any_eq_true, bne_iff_ne]

/-- Which files take a key is told by which files are read. -/
theorem takers_eq (hconnection : c.defaultConnection = "DbContext")
    (hread : ∀ e ∈ ringKeys, c.isFresh (ofKeys e).listed = false ↔ e.1 ∈ s.stale) (key : String) :
    c.takers (ring.map listed) key = (s.takers key).map fun e => (ofKeys e).listed := by
  rw [ring, List.map_map, Catalog.takers, List.filter_map, Standing.takers]
  congr 1
  refine List.filter_congr fun e he => ?_
  have hdef : (ofKeys e).listed.Defines "DbContext" key ↔ key ∈ e.2 := defines_ring he
  rw [Bool.eq_iff_iff]
  simp [hread e he, hconnection, hdef]

/-- The files that take a key in the catalog are those that take it by how the files stand. -/
theorem Describes.takers_eq (h : s.Describes c) (key : String) :
    c.takers (ring.map listed) key = (s.takers key).map fun e => (ofKeys e).listed :=
  Standing.takers_eq h.connection h.stale key

/-- How the files stand after a scan describes the catalog after it. -/
theorem Describes.scan (h : s.Describes c) : s.scan.Describes (c.scanned (ring.map listed)) where
  inStep := h.inStep.scanned
  connection := h.inStep.defaultConnection_scanned.trans h.connection
  stale e he := by
    rw [h.inStep.isFresh_scanned_eq_false_iff (listed_mem he), mem_scan_stale he, h.connection]
    constructor
    · rintro ⟨key, f, hdef, hhead, howner, hne⟩
      rw [h.takers_eq, List.head?_map, Option.map_eq_some_iff] at hhead
      obtain ⟨e', he', rfl⟩ := hhead
      have hkey := (defines_ring he).1 hdef
      have hring := (mem_takers.1 (List.mem_of_head? he')).1
      refine ⟨key, hkey, e'.1, giver?_eq_some_iff.2 ⟨by rw [he', Option.map_some], ?_⟩, ?_⟩
      · exact (h.owners key (mem_keys e he key hkey) e' hring).1 howner
      · exact fun hname => hne ((place_eq_iff e' hring e he).1.2 hname)
    · rintro ⟨key, hkey, name, hgiver, hne⟩
      obtain ⟨hhead, howner⟩ := giver?_eq_some_iff.1 hgiver
      obtain ⟨e', he', rfl⟩ := Option.map_eq_some_iff.1 hhead
      have hring := (mem_takers.1 (List.mem_of_head? he')).1
      refine ⟨key, (ofKeys e').listed, (defines_ring he).2 hkey, ?_, ?_, ?_⟩
      · rw [h.takers_eq, List.head?_map, he', Option.map_some]
      · exact (h.owners key (mem_keys e he key hkey) e' hring).2 howner
      · exact fun hplace => hne ((place_eq_iff e' hring e he).1.1 hplace)
  owners key hkey e he := by
    rw [h.inStep.owner?_scanned, h.takers_eq, lookup_scan_owners hkey, ownerAfter?,
      List.getLast?_map]
    -- The last file that takes the key has it; without one, it stays where it is.
    cases hlast : (s.takers key).getLast? with
    | none => exact h.owners key hkey e he
    | some e' =>
      have hring := (mem_takers.1 (List.mem_of_getLast? hlast)).1
      simp only [Option.map_some, Option.some_or, Option.some.injEq]
      exact (place_eq_iff e' hring e he).1

/-- What is found for a key when one key has been taken out. -/
theorem lookup_filter_ne (owners : List (String × String)) (key key' : String) :
    (owners.filter fun e => e.1 != key).lookup key' =
      if key = key' then none else owners.lookup key' := by
  induction owners with
  | nil => simp
  | cons e owners ih =>
    obtain ⟨k, name⟩ := e
    by_cases hk : k = key <;> by_cases hk' : key' = k <;> grind

/-- How the files stand after a key is evicted describes the catalog after it. -/
theorem Describes.evict (h : s.Describes c) {key : String} (hkey : key ∈ keys) :
    (s.evict key).Describes (c.evict key).2 where
  inStep := h.inStep.evict key
  connection := (congrArg Prod.snd (Catalog.settings_evict c key)).trans h.connection
  stale e he := by
    rw [Catalog.isFresh_evict_eq_false_iff, lowercase_keys key hkey, Standing.evict,
      List.mem_append, Option.mem_toList]
    exact or_congr (h.owners key hkey e he) (h.stale e he)
  owners key' hkey' e he := by
    rw [Catalog.owner?, Catalog.template?_evict, lowercase_keys key hkey, Standing.evict,
      lookup_filter_ne]
    split
    · simp
    · exact h.owners key' hkey' e he

end

/-- A history that has seen nothing but the three files, and how they stand in its catalog. -/
structure Follows (s : Standing) (t : Trail) : Prop where
  reachable : Trail.Reachable ⟨"."⟩ "DbContext" t
  describes : s.Describes t.catalog
  lastLoad : ∀ l g, t.lastLoad l = some g → g ∈ ring.map listed

/-- The files of the ring are a listing of the working directory. -/
theorem listed_ring : Listed ⟨"."⟩ (ring.map listed) :=
  Disk.listed_of_xmlFiles (wellNamed_disk sublist_ring) (xmlFiles_disk sublist_ring)

/-- All files of the ring load. -/
theorem loads_ring {t : Trail} (h : t.catalog.defaultConnection = "DbContext") :
    t.Loads (ring.map listed) := by
  intro f hf
  obtain ⟨q, hq, rfl⟩ := List.mem_map.1 hf
  obtain ⟨e, he, rfl⟩ := List.mem_map.1 hq
  rw [h, templates?_of_parseDocument (parseDocument_ring e he)]
  rfl

/-- After a scan of the ring the history still has seen nothing but these files. -/
theorem lastLoad_scan {t : Trail} (h : ∀ l g, t.lastLoad l = some g → g ∈ ring.map listed)
    {l : Location} {g : XmlFile} (hg : (t.scan (ring.map listed)).lastLoad l = some g) :
    g ∈ ring.map listed := by
  obtain ⟨f, hf, rfl⟩ := Trail.mem_of_lastLoad_scan hg
  rcases Trail.read_or_skips t f with ⟨hcur, hsome⟩ | hskip
  · rw [Trail.lastLoad_scan_of_read listed_ring.nodup hf hcur hsome, Option.some.injEq] at hg
    exact hg ▸ hf
  · rw [Trail.lastLoad_scan_of_skips listed_ring.nodup hf hskip] at hg
    exact h _ g hg

/-- The first scan reads all three files; of those with a key the last one has it. -/
theorem describes_first : Describes ⟨[], [("k", "b.xml"), ("l", "c.xml"), ("m", "c.xml")]⟩
    ((Trail.opened ⟨"."⟩ "DbContext").scan (ring.map listed)).catalog := by
  have hnodup := listed_ring.nodup
  have hinv : (Trail.opened ⟨"."⟩ "DbContext").Inv ⟨"."⟩ "DbContext" := Trail.inv_opened
  have htakers : ∀ key, (Trail.opened ⟨"."⟩ "DbContext").catalog.takers (ring.map listed) key =
      (Standing.takers ⟨ringKeys.map Prod.fst, []⟩ key).map fun e => (ofKeys e).listed :=
    takers_eq rfl fun e he => ⟨fun _ => List.mem_map.2 ⟨e, he, rfl⟩, fun _ => rfl⟩
  refine ⟨hinv.inStep_scan listed_ring (loads_ring rfl) ?_, ?_, fun e he => ?_,
    fun key hkey e he => ?_⟩
  · intro f hf g hg
    cases hg
  · exact (hinv.scan listed_ring).connection_eq
  · have hts := templates?_of_parseDocument (parseDocument_ring e he) "DbContext"
    obtain ⟨s, hs, hmark⟩ := XmlFile.markAfter_of_templates? hts Dictionary.empty
    have hfresh : ((Trail.opened ⟨"."⟩ "DbContext").scan (ring.map listed)).catalog.isFresh
        (ofKeys e).listed = true := by
      refine Catalog.isFresh_iff.2 ⟨s, hs, ?_⟩
      have hsole : ∀ file, (Trail.opened ⟨"."⟩ "DbContext").catalog.SoleOwner file :=
        fun _ _ _ ho => nomatch ho
      exact (Catalog.mark?_scanned hnodup hinv.sound hsole (listed_mem he)).trans hmark
    simp [hfresh]
  · -- In a new catalog every file takes its keys, so the last file with a key has it.
    have hlast : ∀ key ∈ keys, ∃ e' ∈ ringKeys,
        (Standing.takers ⟨ringKeys.map Prod.fst, []⟩ key).getLast? = some e' ∧
        [("k", "b.xml"), ("l", "c.xml"), ("m", "c.xml")].lookup key = some e'.1 := by decide
    obtain ⟨e', he', hlast, hlookup⟩ := hlast key hkey
    have htaker : ((Trail.opened ⟨"."⟩ "DbContext").catalog.takers (ring.map listed) key).getLast? =
        some (ofKeys e').listed := by
      rw [htakers, List.getLast?_map, hlast, Option.map_some]
    have howner := Catalog.owner?_scanned_of_taker hnodup hinv.sound htaker
    rw [hlookup]
    exact (congrArg (· = _) howner).to_iff.trans <| by
      rw [Option.some.injEq, Option.some.injEq]
      exact (place_eq_iff e' he' e he).1

section

variable {s : Standing} {t : Trail}

/-- What holds after any requests holds of a history that follows the files. -/
theorem Follows.inv (h : s.Follows t) : t.Inv ⟨"."⟩ "DbContext" := h.reachable.inv

/-- No file was ever another one. -/
theorem Follows.honest (h : s.Follows t) : t.Honest (ring.map listed) := by
  intro f hf g hg _
  obtain ⟨ts, hts⟩ := h.inv.remembers hg
  rw [List.inj_on_of_nodup_map listed_ring.nodup hf (h.lastLoad _ g hg) hts.location.symm]

/-- In front of the ring a reload is a scan of its files. -/
theorem next_reload (h : t.Inv ⟨"."⟩ "DbContext") :
    t.next (disk ring) .reload = t.scan (ring.map listed) := by
  rw [Trail.next, Trail.reload, h.root_eq, xmlFiles_disk sublist_ring]

/-- After the first scan no file is to be read, and each key has the last file that defines it. -/
theorem follows_first : Follows ⟨[], [("k", "b.xml"), ("l", "c.xml"), ("m", "c.xml")]⟩
    ((Trail.opened ⟨"."⟩ "DbContext").next (disk ring) .reload) where
  reachable := .next .opened .reload (wellNamed_disk sublist_ring) fun _ _ _ => trivial
  describes := by
    rw [next_reload Trail.inv_opened]
    exact describes_first
  lastLoad l g hg := by
    rw [next_reload Trail.inv_opened] at hg
    exact lastLoad_scan (fun _ _ h => absurd h.symm (Option.some_ne_none _)) hg

/-- A history follows the files through a scan. -/
theorem Follows.reload (h : s.Follows t) : s.scan.Follows (t.next (disk ring) .reload) where
  reachable := .next h.reachable .reload (wellNamed_disk sublist_ring) fun _ _ _ => trivial
  describes := by
    rw [next_reload h.inv]
    exact h.describes.scan
  lastLoad l g hg := by
    rw [next_reload h.inv] at hg
    exact lastLoad_scan h.lastLoad hg

/-- A history follows the files when a key is evicted. -/
theorem Follows.evict (h : s.Follows t) {key : String} (hkey : key ∈ keys) :
    (s.evict key).Follows (t.next (disk ring) (.evict key)) where
  reachable := .next h.reachable (.evict key) (wellNamed_disk sublist_ring) fun _ _ _ => trivial
  describes := h.describes.evict hkey
  lastLoad l g hg := h.lastLoad l g (Trail.lastLoad_evict_of_some hg).2

/-- A history follows the files through any number of scans. -/
theorem Follows.along (h : s.Follows t) (n : Nat) :
    (Standing.scan^[n] s).Follows (t.along (disk ring) (fun _ => .reload) n) := by
  induction n with
  | zero => exact h
  | succ n ih =>
    rw [Function.iterate_succ_apply']
    exact ih.reload

/-- A scan reads a file as long as one of them is stale. -/
theorem Follows.parsed_pos (h : s.Follows t) {e : String × List String} (he : e ∈ ringKeys)
    (hstale : e.1 ∈ s.stale) :
    ∃ report, (t.catalog.reload (disk ring)).1 = .ok report ∧ 0 < report.parsed := by
  have hstep := h.describes.inStep
  obtain ⟨report, hreport, hparsed⟩ :=
    hstep.exists_report (by rw [h.inv.root_eq, xmlFiles_disk sublist_ring])
  refine ⟨report, hreport, hparsed ▸ List.length_pos_iff.2 fun hnil => ?_⟩
  have hfresh := hstep.readsOf_eq_nil_iff.1 hnil _ (listed_mem he)
  exact Bool.false_ne_true (((h.describes.stale e he).2 hstale).symm.trans hfresh)

end

/-- How the files stand when two keys were evicted, with scans between and after. -/
def turning : Standing := ⟨["a.xml", "c.xml"], [("k", "b.xml"), ("l", "a.xml"), ("m", "b.xml")]⟩

/-- After four scans the files stand as before, and each of the scans has read some. -/
theorem isPeriodicPt_turning : Function.IsPeriodicPt Standing.scan 4 turning := by
  show Standing.scan (Standing.scan (Standing.scan (Standing.scan turning))) = turning
  decide

/-- However often the files are scanned, the next scan reads one of them. -/
theorem exists_stale_turning (n : Nat) :
    ∃ e ∈ ringKeys, e.1 ∈ (Standing.scan^[n] turning).stale := by
  have hround : ∀ r < 4, ∃ e ∈ ringKeys, e.1 ∈ (Standing.scan^[r] turning).stale := by decide
  rw [← isPeriodicPt_turning.iterate_mod_apply]
  exact hround _ (Nat.mod_lt n (by decide))

end Standing

namespace Trail

open QueryFile

/-- The three files are read, then two keys are evicted, with scans between and after. -/
def turningTrail : Trail :=
  [.reload, .evict "l", .reload, .reload, .evict "k", .reload].foldl
    (fun t r => t.next (disk ring) r) (opened ⟨"."⟩ "DbContext")

/-- The history has the files stand as they do in the turn. -/
theorem follows_turningTrail : Standing.turning.Follows turningTrail := by
  have hl : "l" ∈ keys := by decide
  have hk : "k" ∈ keys := by decide
  exact (((Standing.follows_first.evict hl).reload.reload).evict hk).reload

/-- Three files that do not change are read for ever: each scan makes another of them lose its mark,
    and in the end the first one again. -/
theorem exists_forall_parsed_pos :
    ∃ t disk files, Reachable ⟨"."⟩ "DbContext" t ∧ disk.WellNamed ∧
      disk.xmlFiles ⟨"."⟩ = .ok files ∧ t.Loads files ∧ t.Honest files ∧
      ∀ n, ∃ report, ((t.along disk (fun _ => .reload) n).catalog.reload disk).1 = .ok report ∧
        0 < report.parsed := by
  have h := follows_turningTrail
  refine ⟨turningTrail, disk ring, ring.map listed, h.reachable, wellNamed_disk sublist_ring,
    xmlFiles_disk sublist_ring, Standing.loads_ring h.describes.connection, h.honest, fun n => ?_⟩
  obtain ⟨e, he, hstale⟩ := Standing.exists_stale_turning n
  exact (h.along n).parsed_pos he hstale

end Trail

end QueryBook
