import Mathlib.Data.List.Nodup
import QueryBook.Proofs.Catalog.Update

namespace QueryBook

open Files (Location FilePath Signature XmlFile)

/-!
# The catalog after a scan

What a scan of a listing leaves, view by view, in terms of the catalog before it. The files of the
listing are at different places; nothing is said of the catalog but that it is sound.

* `Catalog.scanned` — the catalog after a scan of files that were listed.
* `template?_scanned` — the last template that was read counts, and of the others those stay whose
  file is neither gone nor read.
* `get?_fileKeys_scanned_of_read` and `mark?_scanned`, with their variants — what is noted for a file.
* `Sound.scanned`, `Covers.scanned` — what a scan keeps.
-/

/-- The places of the files that are read are some of those that are listed. -/
theorem Freshness.placesOf_reads_sublist {fr : Freshness} {connection : String}
    {files : List XmlFile} :
    (Catalog.placesOf (fr.reads connection files)).Sublist (files.map XmlFile.location) := by
  induction files with
  | nil => exact List.Sublist.slnil
  | cons f files ih =>
    rw [reads, List.filterMap_cons]
    cases hr : fr.read? connection f with
    | none => exact ih.cons _
    | some e =>
      have he : e.1.parts = f.location := by
        rw [read?] at hr
        split at hr
        · cases hr
        · obtain ⟨ts, -, rfl⟩ := Option.map_eq_some_iff.1 hr
          rfl
      rw [List.map_cons, ← he]
      exact ih.cons_cons _

namespace Catalog

/-- The catalog after a scan of files that were listed. -/
def scanned (c : Catalog) (files : List XmlFile) : Catalog := (c.scan (.ok files)).2

/-- The files that a scan of a listing reads, with their templates. -/
def readsOf (c : Catalog) (files : List XmlFile) : List (FilePath × List Template) :=
  c.freshness.reads c.defaultConnection files

/-- A scan does not read a file: it passes over it, or it cannot read it. -/
def Skips (c : Catalog) (f : XmlFile) : Prop :=
  c.isFresh f = true ∨ f.templates? c.defaultConnection = none

/-- The catalog when the files of a listing have been looked at, before anything is dropped. -/
def surveyed (c : Catalog) (files : List XmlFile) : Catalog :=
  { c with scans := c.scans + 1, freshness := (survey c files).freshness }

/-- The catalog when the files of a listing have been dropped and taken. -/
def filled (c : Catalog) (files : List XmlFile) : Catalog :=
  ((c.surveyed files).dropFiles (c.vanished files)).installFiles (c.readsOf files)

section

variable {c : Catalog} {files : List XmlFile}

/-! ### The files that are read -/

/-- A scan reads the files that it does not pass over and that load. -/
theorem mem_readsOf {e : FilePath × List Template} : e ∈ c.readsOf files ↔ ∃ f ∈ files,
    c.isFresh f = false ∧ f.templates? c.defaultConnection = some e.2 ∧ f.path = e.1 := by
  rw [readsOf, Freshness.reads, List.mem_filterMap]
  refine exists_congr fun f => and_congr_right fun _ => ?_
  rw [Freshness.read?, isFresh]
  cases c.freshness.isCurrent f with
  | true => simp
  | false =>
    obtain ⟨path, ts⟩ := e
    simp

/-- The places of the files that a scan reads. -/
theorem mem_placesOf_readsOf {file : Location} : file ∈ placesOf (c.readsOf files) ↔ ∃ f ∈ files,
    c.isFresh f = false ∧ (f.templates? c.defaultConnection).isSome ∧ f.location = file := by
  rw [placesOf, List.mem_map]
  constructor
  · rintro ⟨e, he, rfl⟩
    obtain ⟨f, hf, hcur, hts, hpath⟩ := mem_readsOf.1 he
    exact ⟨f, hf, hcur, by rw [hts]; rfl, by rw [← hpath]; rfl⟩
  · rintro ⟨f, hf, hcur, hts, rfl⟩
    obtain ⟨ts, hts⟩ := Option.isSome_iff_exists.1 hts
    exact ⟨(f.path, ts), mem_readsOf.2 ⟨f, hf, hcur, hts, rfl⟩, rfl⟩

/-- The files that a scan reads stand at different places, and their templates name them as
    source. -/
theorem separate_readsOf (hd : (files.map XmlFile.location).Nodup) :
    Separate (c.readsOf files) where
  nodup := hd.sublist Freshness.placesOf_reads_sublist
  own e he t ht := by
    obtain ⟨f, -, -, hts, hpath⟩ := mem_readsOf.1 he
    rw [Template.location?, XmlFile.source_of_templates? hts ht, hpath]
    rfl

/-- Looking at files leaves a catalog sound. -/
theorem Sound.surveyed (hc : c.Sound) : (c.surveyed files).Sound := ⟨hc.key_eq, hc.owned⟩

/-- A file is gone if keys are noted for it and the listing does not have it. -/
theorem mem_vanished {file : Location} : file ∈ c.vanished files ↔
    (∃ keys, c.fileKeys.get? file = some keys) ∧ file ∉ files.map XmlFile.location := by
  rw [vanished, List.mem_filter, Dictionary.mem_keys_iff]
  simp

/-- A file of the listing is not gone. -/
theorem not_mem_vanished {f : XmlFile} (hf : f ∈ files) : f.location ∉ c.vanished files :=
  fun hm => (mem_vanished.1 hm).2 (List.mem_map.2 ⟨f, hf, rfl⟩)

variable (hd : (files.map XmlFile.location).Nodup)
include hd

/-- Where a file stands that a scan skips, no other one is read. -/
theorem not_mem_placesOf_readsOf {f : XmlFile} (hf : f ∈ files) (hskip : c.Skips f) :
    f.location ∉ placesOf (c.readsOf files) := by
  intro hm
  obtain ⟨g, hg, hcur, hsome, hl⟩ := mem_placesOf_readsOf.1 hm
  obtain rfl := List.inj_on_of_nodup_map hd hg hf hl
  rcases hskip with h | h
  · exact Bool.false_ne_true (hcur.symm.trans h)
  · rw [h] at hsome
    cases hsome

/-- The numbers that a scan writes last are in none of the views. -/
theorem views_scanned : (c.scanned files).settings = (c.filled files).settings ∧
    (c.scanned files).template? = (c.filled files).template? ∧
    (c.scanned files).fileKeys = (c.filled files).fileKeys ∧
    (c.scanned files).mark? = (c.filled files).mark? := by
  rw [filled, readsOf, ← loaded_survey c hd]
  exact ⟨rfl, rfl, rfl, rfl⟩

theorem settings_scanned : (c.scanned files).settings = c.settings := by
  rw [(views_scanned hd).1, filled, settings_installFiles, settings_dropFiles]
  rfl

/-! ### Templates -/

/-- After a scan a key has the last template that was read for it. Without one it keeps its own, if
    the file of this is neither gone nor read again. -/
theorem template?_scanned (hc : c.Sound) (key : String) : (c.scanned files).template? key =
    (lastNamed? ((c.readsOf files).flatMap Prod.snd) key).or ((c.template? key).filter fun t =>
      !t.isAt (c.vanished files) && !t.isAt (placesOf (c.readsOf files))) := by
  have hs : (c.surveyed files).Sound := hc.surveyed
  rw [(views_scanned hd).2.1, filled, template?_installFiles (hs.dropFiles _) (separate_readsOf hd),
    template?_dropFiles _ hs, Option.filter_filter]
  rfl

/-- A template of a file that was read is the last one of its key there. -/
theorem template?_scanned_of_read (hc : c.Sound) {f : XmlFile} {ts : List Template} (hf : f ∈ files)
    (hcur : c.isFresh f = false) (hts : f.templates? c.defaultConnection = some ts) {key : String}
    {t : Template} (h : (c.scanned files).template? key = some t)
    (hl : t.location? = some f.location) : lastNamed? ts key = some t := by
  have he : (f.path, ts) ∈ c.readsOf files := mem_readsOf.2 ⟨f, hf, hcur, hts, rfl⟩
  rw [template?_scanned hd hc, Option.or_eq_some_iff] at h
  rcases h with hnew | ⟨-, hold⟩
  · exact (separate_readsOf hd).lastNamed?_of_flatMap he hnew hl
  · obtain ⟨-, hp⟩ := Option.filter_eq_some_iff.1 hold
    rw [Bool.and_eq_true, Bool.not_eq_true', Bool.not_eq_true'] at hp
    have hat : t.isAt (placesOf (c.readsOf files)) = true :=
      Template.isAt_iff.2 ⟨f.location, List.mem_map.2 ⟨_, he, rfl⟩, hl⟩
    exact absurd (hp.2.symm.trans hat) Bool.false_ne_true

/-- A template of a file that was not read was there before. -/
theorem template?_scanned_of_skips (hc : c.Sound) {f : XmlFile} (hf : f ∈ files)
    (hskip : c.Skips f) {key : String} {t : Template}
    (h : (c.scanned files).template? key = some t) (hl : t.location? = some f.location) :
    c.template? key = some t := by
  rw [template?_scanned hd hc, Option.or_eq_some_iff] at h
  rcases h with hnew | ⟨-, hold⟩
  · obtain ⟨e, he, ht⟩ := List.mem_flatMap.1 (mem_of_lastNamed? hnew).1
    rw [(separate_readsOf hd).own e he t ht, Option.some.injEq] at hl
    exact absurd (List.mem_map.2 ⟨e, he, hl⟩) (not_mem_placesOf_readsOf hd hf hskip)
  · exact (Option.filter_eq_some_iff.1 hold).1

/-- A catalog stays sound in a scan. -/
theorem Sound.scanned (hc : c.Sound) : (c.scanned files).Sound := by
  have hfilled : (c.filled files).Sound :=
    (hc.surveyed.dropFiles _).installFiles (separate_readsOf hd)
  exact hfilled.congr (views_scanned hd).2.1 (views_scanned hd).2.2.1

/-! ### Keys -/

/-- For a file that a scan reads the keys of its templates are noted. -/
theorem get?_fileKeys_scanned_of_read {f : XmlFile} {ts : List Template} (hf : f ∈ files)
    (hcur : c.isFresh f = false) (hts : f.templates? c.defaultConnection = some ts) :
    (c.scanned files).fileKeys.get? f.location = some (ts.map Template.key) := by
  have he : (f.path, ts) ∈ c.readsOf files := mem_readsOf.2 ⟨f, hf, hcur, hts, rfl⟩
  have h := get?_fileKeys_installFiles (c := (c.surveyed files).dropFiles (c.vanished files))
    (separate_readsOf hd) he
  rw [(views_scanned hd).2.2.1]
  exact h

/-- For a file that a scan skips the keys stay noted that were. -/
theorem get?_fileKeys_scanned_of_skips {f : XmlFile} (hf : f ∈ files) (hskip : c.Skips f) :
    (c.scanned files).fileKeys.get? f.location = c.fileKeys.get? f.location := by
  rw [(views_scanned hd).2.2.1, filled, get?_fileKeys_installFiles_of_not_mem
      (not_mem_placesOf_readsOf hd hf hskip), get?_fileKeys_dropFiles, if_neg (not_mem_vanished hf)]
  rfl

/-- Nothing is noted for a file that is not listed. -/
theorem get?_fileKeys_scanned_of_not_mem {file : Location}
    (hfile : file ∉ files.map XmlFile.location) :
    (c.scanned files).fileKeys.get? file = none := by
  have hplace : file ∉ placesOf (c.readsOf files) := fun hm =>
    hfile (Freshness.placesOf_reads_sublist.subset hm)
  rw [(views_scanned hd).2.2.1, filled, get?_fileKeys_installFiles_of_not_mem hplace,
    get?_fileKeys_dropFiles]
  by_cases hv : file ∈ c.vanished files
  · rw [if_pos hv]
  · rw [if_neg hv]
    refine Option.eq_none_iff_forall_ne_some.2 fun keys hkeys => hv ?_
    exact mem_vanished.2 ⟨⟨keys, hkeys⟩, hfile⟩

/-! ### Marks -/

/-- The mark of a file when all files have been looked at. -/
theorem mark?_surveyed {f : XmlFile} (hf : f ∈ files) :
    (c.surveyed files).mark? f.location = f.markAfter c.defaultConnection c.freshness :=
  get?_freshness_survey c hd hf

/-- A file that counts as loaded after the scan has passed it. -/
theorem mark?_scanned_of_some {f : XmlFile} (hf : f ∈ files) {m : Signature}
    (h : (c.scanned files).mark? f.location = some m) :
    f.markAfter c.defaultConnection c.freshness = some m := by
  rw [(views_scanned hd).2.2.2] at h
  rw [← mark?_surveyed hd hf]
  exact (mark?_dropFiles_of_some _ (mark?_installFiles_of_some h)).2

/-- A file that is not listed does not count as loaded, if nothing but files with keys did
    before. -/
theorem mark?_scanned_of_not_mem {file : Location} (hfile : file ∉ files.map XmlFile.location)
    (hkeys : c.mark? file ≠ none → ∃ keys, c.fileKeys.get? file = some keys) :
    (c.scanned files).mark? file = none := by
  refine Option.eq_none_iff_forall_ne_some.2 fun m hm => ?_
  rw [(views_scanned hd).2.2.2] at hm
  obtain ⟨hkept, hbefore⟩ := mark?_dropFiles_of_some _ (mark?_installFiles_of_some hm)
  rw [mark?, surveyed, get?_freshness_survey_of_not_mem c hfile] at hbefore
  refine hkept (mem_vanished.2 ⟨hkeys ?_, hfile⟩)
  rw [hbefore]
  exact Option.some_ne_none m

/-- If no key is noted for two files, no mark is lost on the way. -/
theorem mark?_scanned (hc : c.Sound) (hsole : ∀ file, c.SoleOwner file) {f : XmlFile}
    (hf : f ∈ files) :
    (c.scanned files).mark? f.location = f.markAfter c.defaultConnection c.freshness := by
  have hs : (c.surveyed files).Sound := hc.surveyed
  have hsole' : ∀ file, (c.surveyed files).SoleOwner file := fun file => hsole file
  rw [(views_scanned hd).2.2.2, filled, mark?_installFiles (hs.dropFiles _) (separate_readsOf hd)
      fun file _ => (hsole' file).dropFiles _ hs,
    mark?_dropFiles hs (fun file _ => hsole' file) (not_mem_vanished hf), mark?_surveyed hd hf]

/-- The files that define a missing key have no mark still when they have been looked at, but for
    those that were read. -/
theorem Covers.surveyed {exempt : List String} (h : c.Covers exempt []) :
    (c.surveyed files).Covers exempt (placesOf (c.readsOf files)) := by
  intro key file hnone hk hexempt hplace
  have hmark : c.mark? file = none := h key file hnone hk hexempt List.not_mem_nil
  refine Option.eq_none_iff_forall_ne_some.2 fun m hm => ?_
  by_cases hfile : file ∈ files.map XmlFile.location
  · obtain ⟨f, hf, rfl⟩ := List.mem_map.1 hfile
    -- A file that waits for its turn was read; this one was not, so its mark is an old one.
    have hskip : c.Skips f := by
      by_contra hread
      obtain ⟨hcur, hts⟩ := not_or.1 hread
      rw [Bool.not_eq_true] at hcur
      have hsome := Option.isSome_iff_ne_none.2 hts
      exact hplace (mem_placesOf_readsOf.2 ⟨f, hf, hcur, hsome, rfl⟩)
    rw [mark?_surveyed hd hf] at hm
    rw [mark?, XmlFile.get?_of_markAfter hskip hm] at hmark
    cases hmark
  · have hm' : c.mark? file = some m := by
      rw [← get?_freshness_survey_of_not_mem c hfile]
      exact hm
    rw [hmark] at hm'
    cases hm'

/-- A scan leaves no key without a template while a file that defines it is marked. -/
theorem Covers.scanned {exempt : List String} (hc : c.Sound) (h : c.Covers exempt []) :
    (c.scanned files).Covers exempt [] := by
  have hs : (c.surveyed files).Sound := hc.surveyed
  obtain ⟨-, htemplate, hkeys, hmarks⟩ := views_scanned (c := c) hd
  intro key file
  rw [htemplate, hmarks, keysOf, hkeys]
  exact ((h.surveyed hd).dropFiles (c.vanished files) hs).installFiles (hs.dropFiles _)
    (separate_readsOf hd) key file

end

end Catalog

end QueryBook
