import Mathlib.Data.List.Basic
import QueryBook.Proofs.Catalog.Ownership

namespace QueryBook

open Files (Location FilePath Signature XmlFile)

/-!
# What reading the files gives

The files of a listing are read one after another, and what is known of a file changes on the way.
As no two of them are at one place, each is still judged by what was known before the first one.

* `XmlFile.templates?` — what a file gives, if it can be read.
* `Freshness.isCurrent`, `Catalog.isFresh` — whether a file is passed over.
* `Freshness.reads`, `loaded_survey` — the files that are read, in closed form.
* `XmlFile.markAfter`, `get?_freshness_survey` — what a file looked like, as it is known afterwards.
-/

/-! ### One file -/

/-- The templates of a file, if one can look at it and read it. -/
def Files.XmlFile.templates? (f : XmlFile) (connection : String) : Option (List Template) :=
  match f.signature with
  | .ok _ => (loadFile f connection).toOption
  | .error _ => none

/-- Whether a file looks as it did when it was loaded. -/
def Freshness.isCurrent (fr : Freshness) (f : XmlFile) : Bool :=
  match f.signature with
  | .ok signature => fr.isLatest f.location signature
  | .error _ => false

/-- Whether a scan passes over a file. -/
def Catalog.isFresh (c : Catalog) (f : XmlFile) : Bool := c.freshness.isCurrent f

/-- What a file looked like, as it is known after a scan. -/
def Files.XmlFile.markAfter (f : XmlFile) (connection : String) (fr : Freshness) :
    Option Signature :=
  match f.signature with
  | .error _ => fr.get? f.location
  | .ok signature =>
    if fr.isLatest f.location signature ∨ (f.templates? connection).isSome then some signature
    else none

/-- The path and the templates of a file, if it is read. -/
def Freshness.read? (fr : Freshness) (connection : String) (f : XmlFile) :
    Option (FilePath × List Template) :=
  if fr.isCurrent f then none
  else (f.templates? connection).map fun templates => (f.path, templates)

/-- The files that are read, with their templates. -/
def Freshness.reads (fr : Freshness) (connection : String) (files : List XmlFile) :
    List (FilePath × List Template) := files.filterMap (fr.read? connection)

/-- A file adds what is read of it to what is read of the others. -/
theorem Freshness.reads_cons (fr : Freshness) (connection : String) (f : XmlFile)
    (files : List XmlFile) : fr.reads connection (f :: files) =
      (fr.read? connection f).toList ++ fr.reads connection files := by
  rw [reads, List.filterMap_cons]
  cases fr.read? connection f <;> rfl

/-- A file is current if it can be looked at and looks as its mark says. -/
theorem Freshness.isCurrent_iff {fr : Freshness} {f : XmlFile} :
    fr.isCurrent f = true ↔ ∃ s, f.signature = .ok s ∧ fr.get? f.location = some s := by
  unfold isCurrent isLatest
  cases f.signature with
  | error fault => simp
  | ok s => simp

/-- A file is passed over if it can be looked at and looks as its mark says. -/
theorem Catalog.isFresh_iff {c : Catalog} {f : XmlFile} :
    c.isFresh f = true ↔ ∃ s, f.signature = .ok s ∧ c.mark? f.location = some s :=
  Freshness.isCurrent_iff

section

variable {connection : String} {f : XmlFile} {ts : List Template}

/-- A file gives templates if one can look at it and it loads. -/
theorem Files.XmlFile.templates?_eq_some_iff : f.templates? connection = some ts ↔
    (∃ s, f.signature = .ok s) ∧ loadFile f connection = .ok ts := by
  unfold templates?
  cases f.signature <;> cases loadFile f connection <;> simp [Except.toOption]

/-- The templates of a file name it as their source. -/
theorem Files.XmlFile.source_of_templates? (h : f.templates? connection = some ts) {t : Template}
    (ht : t ∈ ts) : t.source = some f.path := by
  have hload : loadFile f connection = .ok ts := (templates?_eq_some_iff.1 h).2
  unfold loadFile at hload
  split at hload
  · cases hload
  · split at hload
    · cases hload
    · obtain rfl := Except.ok.inj hload
      obtain ⟨d, -, rfl⟩ := List.mem_map.1 ht
      rfl

/-- What a file gives depends on its path and its text alone, once one can look at it. -/
theorem Files.XmlFile.templates?_congr {g : XmlFile} (hpath : f.path = g.path)
    (htext : f.text = g.text) (hf : f.signature.isOk) (hg : g.signature.isOk) :
    f.templates? connection = g.templates? connection := by
  have hload : loadFile f connection = loadFile g connection := by
    rw [loadFile, loadFile, hpath, htext]
  cases hfs : f.signature with
  | error fault => rw [hfs] at hf; cases hf
  | ok s =>
    cases hgs : g.signature with
    | error fault => rw [hgs] at hg; cases hg
    | ok s' => rw [templates?, templates?, hfs, hgs, hload]

/-- A file that can be read is known by its signature afterwards. -/
theorem Files.XmlFile.markAfter_of_templates? (h : f.templates? connection = some ts)
    (fr : Freshness) : ∃ s, f.signature = .ok s ∧ f.markAfter connection fr = some s := by
  obtain ⟨⟨s, hs⟩, -⟩ := templates?_eq_some_iff.1 h
  refine ⟨s, hs, ?_⟩
  unfold markAfter
  rw [hs]
  exact if_pos (.inr (by rw [h]; rfl))

/-- What is known afterwards of a file that is not read was known before. -/
theorem Files.XmlFile.get?_of_markAfter {fr : Freshness} {m : Signature}
    (hskip : fr.isCurrent f = true ∨ f.templates? connection = none)
    (hm : f.markAfter connection fr = some m) : fr.get? f.location = some m := by
  unfold markAfter at hm
  cases hs : f.signature with
  | error fault => rwa [hs] at hm
  | ok s =>
    simp only [hs] at hm
    split at hm
    · next hor =>
      rcases hor with hlatest | hts
      · exact (eq_of_beq hlatest).trans hm
      · -- It can be read, so it was passed over.
        have hcur : fr.isCurrent f = true := hskip.resolve_right fun hnone => by
          rw [hnone] at hts
          cases hts
        obtain ⟨s', hs', hmark⟩ := Freshness.isCurrent_iff.1 hcur
        rw [hmark, ← hm, Except.ok.inj (hs.symm.trans hs')]
    · cases hm

end

/-! ### One step -/

namespace Survey

variable (connection : String) (s : Survey) (f : XmlFile)

/-- A file that is read comes behind those that were read before. -/
theorem loaded_take : (s.take connection f).loaded =
    s.loaded ++ (s.freshness.read? connection f).toList := by
  unfold take Freshness.read? Freshness.isCurrent XmlFile.templates?
  cases hs : f.signature with
  | error fault => simp
  | ok signature =>
    by_cases hl : s.freshness.isLatest f.location signature
    · simp [hl]
    · cases ht : loadFile f connection <;> simp [hl, Except.toOption]

/-- One step of a survey changes the mark of its own file only. -/
theorem get?_freshness_take (l : Location) : (s.take connection f).freshness.get? l =
    if f.location = l then f.markAfter connection s.freshness else s.freshness.get? l := by
  unfold take XmlFile.markAfter XmlFile.templates?
  cases hs : f.signature with
  | error fault =>
    by_cases h : f.location = l <;> simp [h]
  | ok signature =>
    by_cases hl : s.freshness.isLatest f.location signature
    · have hm : s.freshness.get? f.location = some signature := eq_of_beq hl
      by_cases h : f.location = l
      · subst h; simp [hl, hm]
      · simp [hl, h]
    · cases ht : loadFile f connection with
      | ok templates => simp [hl, Freshness.record, Except.toOption]
      | error fault => simp [hl, Freshness.forget, Except.toOption]

end Survey

/-! ### All files -/

section

variable {connection : String} {files : List XmlFile}

/-- Whether a file is current depends on its own mark only. -/
theorem Freshness.isCurrent_congr {fr fr' : Freshness} {f : XmlFile}
    (h : fr.get? f.location = fr'.get? f.location) : fr.isCurrent f = fr'.isCurrent f := by
  unfold isCurrent isLatest
  rw [h]

/-- What a file is known to look like depends on its own mark only. -/
theorem Files.XmlFile.markAfter_congr {fr fr' : Freshness} {f : XmlFile}
    (h : fr.get? f.location = fr'.get? f.location) :
    f.markAfter connection fr = f.markAfter connection fr' := by
  unfold markAfter Freshness.isLatest
  rw [h]

/-- Which files are read depends on their own marks only. -/
theorem Freshness.reads_congr {fr fr' : Freshness}
    (h : ∀ f ∈ files, fr.get? f.location = fr'.get? f.location) :
    fr.reads connection files = fr'.reads connection files := by
  refine List.filterMap_congr fun f hf => ?_
  rw [read?, read?, isCurrent_congr (h f hf)]

/-- The first of several files at different places leaves what is known of the others. -/
theorem get?_freshness_take_of_nodup {f : XmlFile} (s : Survey)
    (h : ((f :: files).map XmlFile.location).Nodup) {g : XmlFile} (hg : g ∈ files) :
    (s.take connection f).freshness.get? g.location = s.freshness.get? g.location := by
  have hne : f.location ≠ g.location := fun he =>
    (List.nodup_cons.1 h).1 (List.mem_map.2 ⟨g, hg, he.symm⟩)
  rw [Survey.get?_freshness_take, if_neg hne]

/-- A survey reads what the marks from before it call for: no step changes what is read of the files
    to come. -/
theorem loaded_foldl_take (s : Survey) (h : (files.map XmlFile.location).Nodup) :
    (files.foldl (Survey.take connection) s).loaded =
      s.loaded ++ s.freshness.reads connection files := by
  induction files generalizing s with
  | nil => simp [Freshness.reads]
  | cons f files ih =>
    -- What the first file changes is asked of no other one.
    have hrest : (s.take connection f).freshness.reads connection files =
        s.freshness.reads connection files :=
      Freshness.reads_congr fun g hg => get?_freshness_take_of_nodup s h hg
    rw [List.foldl_cons, ih _ (List.nodup_cons.1 h).2, Survey.loaded_take, hrest,
      Freshness.reads_cons, List.append_assoc]

/-- A survey does not touch the marks of files that it does not come to. -/
theorem get?_freshness_foldl_take_of_not_mem (s : Survey) {l : Location}
    (h : l ∉ files.map XmlFile.location) :
    (files.foldl (Survey.take connection) s).freshness.get? l = s.freshness.get? l := by
  induction files generalizing s with
  | nil => rfl
  | cons f files ih =>
    rw [List.map_cons, List.mem_cons, not_or] at h
    rw [List.foldl_cons, ih _ h.2, Survey.get?_freshness_take, if_neg (Ne.symm h.1)]

/-- After a survey the mark of each of its files is what its own step made it. -/
theorem get?_freshness_foldl_take (s : Survey) (h : (files.map XmlFile.location).Nodup)
    {f : XmlFile} (hf : f ∈ files) :
    (files.foldl (Survey.take connection) s).freshness.get? f.location =
      f.markAfter connection s.freshness := by
  induction files generalizing s with
  | nil => cases hf
  | cons g files ih =>
    have hnodup := List.nodup_cons.1 h
    rw [List.foldl_cons]
    rcases List.mem_cons.1 hf with rfl | hf
    · rw [get?_freshness_foldl_take_of_not_mem _ hnodup.1, Survey.get?_freshness_take, if_pos rfl]
    · rw [ih _ hnodup.2 hf]
      exact XmlFile.markAfter_congr (get?_freshness_take_of_nodup s h hf)

end

section

variable (c : Catalog) {files : List XmlFile} (h : (files.map XmlFile.location).Nodup)
include h

/-- What is read is told by what was known before the scan. -/
theorem loaded_survey :
    (survey c files).loaded = c.freshness.reads c.defaultConnection files := by
  rw [survey, loaded_foldl_take _ h, List.nil_append]

/-- What is known of a listed file after the scan. -/
theorem get?_freshness_survey {f : XmlFile} (hf : f ∈ files) :
    (survey c files).freshness.get? f.location = f.markAfter c.defaultConnection c.freshness :=
  get?_freshness_foldl_take _ h hf

omit h in
/-- Nothing new is known of a file that is not listed. -/
theorem get?_freshness_survey_of_not_mem {l : Location} (hl : l ∉ files.map XmlFile.location) :
    (survey c files).freshness.get? l = c.mark? l :=
  get?_freshness_foldl_take_of_not_mem _ hl

end

end QueryBook
