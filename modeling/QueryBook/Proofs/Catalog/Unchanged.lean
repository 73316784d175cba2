import QueryBook.Proofs.Catalog.Invariant
import QueryBook.Proofs.Catalog.Takers

namespace QueryBook

open Files (Disk Listed Location FilePath Signature XmlFile)

/-!
# Two scans of one directory

A scan that reads the file which has a key takes the marks of the other files that define it, and so
the next scan reads these again although nothing has changed. The last of them takes the key.

* `Catalog.Keeps` — no other file takes the key of a template in the next scan.
* `Trail.template?_next_next` — what the second of two scans makes of a loaded key.
-/

/-- The file that a template was read from is the last one to take its key in a scan, if any is. -/
def Catalog.Keeps (c : Catalog) (files : List XmlFile) (tm : Template) : Prop :=
  ∀ f, (c.takers files tm.key).getLast? = some f → tm.source = some f.path

namespace Trail

section

variable {root : FilePath} {connection : String} {t : Trail} {files : List XmlFile} {key : String}

/-- A scan in front of the files of the last one leaves no key behind. -/
theorem Inv.template?_scan_scan (h : t.Inv root connection) (hlisted : Listed root files)
    (hload : t.Loads files) (honest : t.Honest files) {tm : Template}
    (hkey : (t.scan files).catalog.template? key = some tm) :
    ∃ tm', ((t.scan files).scan files).catalog.template? key = some tm' ∧
      ((t.scan files).catalog.Keeps files tm → tm' = tm) ∧
      (¬ (t.scan files).catalog.Keeps files tm → tm'.source ≠ tm.source) := by
  have hd := hlisted.nodup
  have hinv := h.scan hlisted
  obtain rfl := hinv.sound.key_eq hkey
  obtain ⟨f, hf, ts, hts, hl, hlast⟩ := h.exists_listed hlisted hload honest hkey
  have hconn := hinv.connection_eq
  cases htake : ((t.scan files).catalog.takers files tm.key).getLast? with
  | none =>
    -- The file that has the key defines it, and is passed over with all the others that do.
    have hdef : f.Defines (t.scan files).catalog.defaultConnection tm.key :=
      ⟨ts, hconn.symm ▸ hts.templates, List.mem_map.2 ⟨tm, (mem_of_lastNamed? hlast).1, rfl⟩⟩
    have hnil := List.getLast?_eq_none_iff.1 htake
    have hcur := Catalog.isFresh_of_takers_eq_nil hnil hf hdef
    refine ⟨tm, ?_, fun _ => rfl, fun hkeeps => absurd (fun g hg => ?_) hkeeps⟩
    · exact Catalog.template?_scanned_of_takers_eq_nil hd hinv.sound hnil hf (.inl hcur) hkey hl
    · rw [htake] at hg
      cases hg
  | some g =>
    have hg := (Catalog.mem_takers.1 (List.mem_of_getLast? htake)).1
    obtain ⟨ts', tm', hts', hlast', hsource, hafter⟩ :=
      Catalog.template?_scanned_of_taker hd hinv.sound htake
    refine ⟨tm', hafter, fun hkeeps => ?_, fun hkeeps he => hkeeps fun g' hg' => ?_⟩
    · -- The file that takes the key is the one that has it.
      have hloc : tm.location? = some g.location := by
        rw [Template.location?, hkeeps g htake]
        rfl
      obtain rfl := List.inj_on_of_nodup_map hd hf hg (Option.some.inj (hl.symm.trans hloc))
      rw [hconn, hts.templates] at hts'
      obtain rfl := Option.some.inj hts'
      exact Option.some.inj (hlast'.symm.trans hlast)
    · rw [htake, Option.some.injEq] at hg'
      rw [← he, hsource, hg']

/-- **Two scans of one directory.** After any requests, in front of files that all load and have the
    texts which their marks stand for, a key that is loaded after a scan is loaded after the next
    one, too. Its template is the same exactly if no other file takes the key; else it comes from
    another file. -/
theorem template?_next_next (h : Reachable root connection t) {disk : Disk} (hdisk : disk.WellNamed)
    (hlist : disk.xmlFiles root = .ok files) (hload : t.Loads files) (honest : t.Honest files)
    (r r' : Catalog.Request) (hr : r.scans t.catalog = true)
    (hr' : r'.scans (t.next disk r).catalog = true) {tm : Template}
    (hkey : (t.next disk r).catalog.template? key = some tm) :
    ∃ tm', ((t.next disk r).next disk r').catalog.template? key = some tm' ∧
      ((t.next disk r).catalog.Keeps files tm → tm' = tm) ∧
      (¬ (t.next disk r).catalog.Keeps files tm → tm'.source ≠ tm.source) := by
  have hinv : t.Inv root connection := h.inv
  have hlisted : Listed root files := Disk.listed_of_xmlFiles hdisk hlist
  have hfirst : t.next disk r = t.scan files := by
    rw [next_of_scans disk hr, Trail.reload, hinv.root_eq, hlist]
  have hsecond : (t.scan files).next disk r' = (t.scan files).scan files := by
    rw [next_of_scans disk (hfirst ▸ hr'), Trail.reload, (hinv.scan hlisted).root_eq, hlist]
  rw [hfirst] at hkey ⊢
  rw [hsecond]
  exact hinv.template?_scan_scan hlisted hload honest hkey

end

/-! ### A key that changes hands -/

open QueryFile

/-- The two files after the second one was written again. -/
def renewed : List QueryFile := [⟨"a.xml", 100, "K"⟩, ⟨"b.xml", 200, "K"⟩]

theorem sublist_renewed : (renewed.map file).Sublist fileNames := by decide

theorem loads_renewed : rivalTrail.Loads (renewed.map listed) := loads_listed _ (by decide)

/-- All query files have the same text if they have the same query. -/
theorem honest_renewed : rivalTrail.Honest (renewed.map listed) := by
  intro f hf g hg _
  rw [rivalTrail_eq] at hg
  have hkept : ∀ e ∈ rivals, e.listed.location = f.location → e.listed = g := by
    intro e he hl
    rw [← hl, lastLoad_scan_opened (nodup_listed sublist_rivals) (loads_listed _ (by decide))
      (List.mem_map.2 ⟨e, he, rfl⟩)] at hg
    exact Option.some.inj hg
  simp only [renewed, List.map_cons, List.map_nil, List.mem_cons, List.not_mem_nil, or_false] at hf
  rcases hf with rfl | rfl
  · obtain rfl := hkept ⟨"a.xml", 100, "K"⟩ (by simp [rivals]) rfl
    rfl
  · obtain rfl := hkept ⟨"b.xml", 100, "K"⟩ (by simp [rivals]) rfl
    rfl

/-- The requests are two scans, before and after the second file was written again. -/
theorem renewedTrail_eq : rivalTrail.next (disk renewed) .reload =
    ((opened ⟨"."⟩ "DbContext").scan (rivals.map listed)).scan (renewed.map listed) := by
  rw [next, reload, reachable_rivalTrail.inv.root_eq, xmlFiles_disk sublist_renewed, rivalTrail_eq]

/-- The key still comes from the second file. -/
theorem source_renewed : ((rivalTrail.next (disk renewed) .reload).catalog.template? "k").bind
    Template.source = some ⟨"./b.xml"⟩ := by
  rw [renewedTrail_eq]
  decide +kernel

/-- The next scan reads the first file, which has lost its mark, so that the key changes hands
    although no file has changed. -/
theorem template?_next_next_renewed :
    Reachable ⟨"."⟩ "DbContext" rivalTrail ∧ (disk renewed).WellNamed ∧
      rivalTrail.Loads (renewed.map listed) ∧ rivalTrail.Honest (renewed.map listed) ∧
      ∃ tm tm', (rivalTrail.next (disk renewed) .reload).catalog.template? "k" = some tm ∧
        ((rivalTrail.next (disk renewed) .reload).next (disk renewed)
          .reload).catalog.template? "k" = some tm' ∧
        ((rivalTrail.next (disk renewed) .reload).catalog.Keeps (renewed.map listed) tm →
          tm' = tm) ∧
        (¬ (rivalTrail.next (disk renewed) .reload).catalog.Keeps (renewed.map listed) tm →
          tm'.source ≠ tm.source) := by
  obtain ⟨tm, htm, -⟩ := Option.bind_eq_some_iff.1 source_renewed
  obtain ⟨tm', htm'⟩ := template?_next_next reachable_rivalTrail (wellNamed_disk sublist_renewed)
    (xmlFiles_disk sublist_renewed) loads_renewed honest_renewed .reload .reload rfl rfl htm
  exact ⟨reachable_rivalTrail, wellNamed_disk sublist_renewed, loads_renewed, honest_renewed, tm,
    tm', htm, htm'⟩

/-- The file that has the key is written again and keeps the key in the first scan. The second one
    gives the key to the other file, although nothing has changed between them. -/
theorem exists_source_ne_of_next_next :
    ∃ t disk files, Reachable ⟨"."⟩ "DbContext" t ∧ disk.WellNamed ∧
      disk.xmlFiles ⟨"."⟩ = .ok files ∧ t.Loads files ∧ t.Honest files ∧
      ((t.next disk .reload).catalog.template? "k").bind Template.source = some ⟨"./b.xml"⟩ ∧
      (((t.next disk .reload).next disk .reload).catalog.template? "k").bind Template.source =
        some ⟨"./a.xml"⟩ := by
  have hroot : ((rivalTrail.next (disk renewed) .reload)).catalog.root = ⟨"."⟩ :=
    (reachable_rivalTrail.inv.next (wellNamed_disk sublist_renewed) .reload).root_eq
  have hsecond : (rivalTrail.next (disk renewed) .reload).next (disk renewed) .reload =
      (rivalTrail.next (disk renewed) .reload).scan (renewed.map listed) := by
    rw [next_of_scans _ rfl, Trail.reload, hroot, xmlFiles_disk sublist_renewed]
  refine ⟨rivalTrail, disk renewed, renewed.map listed, reachable_rivalTrail,
    wellNamed_disk sublist_renewed, xmlFiles_disk sublist_renewed, loads_renewed, honest_renewed,
    source_renewed, ?_⟩
  rw [hsecond, renewedTrail_eq]
  decide +kernel

end Trail

end QueryBook
