import Mathlib.Data.List.Basic
import QueryBook.Proofs.Catalog.Survey

namespace QueryBook

open Files (Location FilePath Signature XmlFile)

/-!
# Steps of a scan, one after another

A scan drops the files that are gone and takes those that were read, one after another. The files on
the way have different places, so that none of them takes back what an earlier one gave, and the end
can be told from the beginning.

* `Catalog.Covers` — files that define a missing key have no mark; kept by each step, up to the
  files that still wait for their turn.
* `Catalog.SoleOwner` — nothing that a file has is noted for another one; then it can be given up
  without the loss of a mark.
* `Catalog.dropFiles`, `Catalog.installFiles` — several files, with one equation for each view.
-/

/-- Whether a template was read from one of some files. -/
def Template.isAt (t : Template) (files : List Location) : Bool := t.location?.any files.contains

/-- A template is at some files if it was read from one of them. -/
theorem Template.isAt_iff {t : Template} {files : List Location} :
    t.isAt files = true ↔ ∃ file ∈ files, t.location? = some file := by
  unfold isAt
  cases t.location? <;> simp

/-- A template that was read from another file is not at these. -/
theorem Template.isAt_eq_false {t : Template} {file : Location} {files : List Location}
    (hl : t.location? = some file) (h : file ∉ files) : t.isAt files = false := by
  rw [Bool.eq_false_iff, Ne, isAt_iff]
  rintro ⟨other, hm, hother⟩
  rw [hl, Option.some.injEq] at hother
  exact h (hother ▸ hm)

@[simp] theorem Template.isAt_nil {t : Template} : t.isAt [] = false := by
  rw [Bool.eq_false_iff, Ne, isAt_iff]
  simp

/-- A template is at the first of some files, or at one of the rest. -/
theorem Template.isAt_cons {t : Template} {file : Location} {files : List Location} :
    t.isAt (file :: files) = (t.location? == some file || t.isAt files) := by
  rw [Bool.eq_iff_iff, Bool.or_eq_true, isAt_iff, isAt_iff, beq_iff_eq]
  simp

namespace Catalog

/-- What stays of a key when a file gives up what it has. -/
theorem ite_owner?_eq (c : Catalog) (file : Location) (key : String) :
    (if c.owner? key = some file then none else c.template? key) =
      (c.template? key).filter fun t => !t.location? == some file := by
  unfold owner?
  cases c.template? key with
  | none => simp
  | some t => by_cases h : t.location? = some file <;> simp [Option.filter, h]

/-! ### What each step keeps -/

/-- Every file that defines a key which is not loaded has no mark, but for some keys, and for the
    files that wait for their turn in a scan. -/
def Covers (c : Catalog) (exempt : List String) (pending : List Location) : Prop :=
  ∀ key file, c.template? key = none → key ∈ c.keysOf file → key ∉ exempt → file ∉ pending →
    c.mark? file = none

/-- No key that a file has is noted for another one. -/
def SoleOwner (c : Catalog) (file : Location) : Prop :=
  ∀ key other, c.owner? key = some file → key ∈ c.keysOf other → other = file

section

variable {c : Catalog} {file : Location} {exempt : List String} {pending : List Location}

/-- The other files that define a key lose their marks when the file that has it gives it up. -/
theorem Sound.shadowed (hc : c.Sound) {key : String} {other : Location}
    (ho : c.owner? key = some file) (hne : other ≠ file) (hk : key ∈ c.keysOf other) :
    c.Shadowed file (c.keysOf file) other := ⟨hne, key, hc.mem_keysOf ho, ho, hk⟩

/-- Dropping a file leaves no key without a template and with a marked file: the files that define
    its keys lose their marks. -/
theorem Covers.dropFile (hc : c.Sound) (h : c.Covers exempt pending) :
    (c.dropFile file).Covers exempt pending := by
  intro key other hnone hk hexempt hpending
  rw [keysOf_dropFile] at hk
  rw [template?_dropFile file hc] at hnone
  rw [mark?_dropFile]
  split
  · rfl
  · next hkeep =>
    rw [not_or] at hkeep
    rw [if_neg hkeep.1] at hk
    by_cases ho : c.owner? key = some file
    · exact absurd (hc.shadowed ho (Ne.symm hkeep.1) hk) hkeep.2
    · rw [if_neg ho] at hnone
      exact h key other hnone hk hexempt hpending

/-- When its turn has come a file waits no more: all its keys are loaded. -/
theorem Covers.installFile {path : FilePath} {ts : List Template} (hc : c.Sound)
    (h : c.Covers exempt (path.parts :: pending)) :
    (c.installFile path ts).Covers exempt pending := by
  intro key other hnone hk hexempt hpending
  rw [keysOf_installFile] at hk
  rw [template?_installFile path ts hc, Option.or_eq_none_iff, lastNamed?_eq_none_iff] at hnone
  obtain ⟨hnew, hold⟩ := hnone
  have hne : path.parts ≠ other := by
    rintro rfl
    rw [if_pos rfl] at hk
    exact hnew hk
  rw [if_neg hne] at hk
  rw [mark?_installFile]
  split
  · rfl
  · next hkeep =>
    -- If the file had the key before and lost it, the files that it shadowed are released.
    by_cases ho : c.owner? key = some path.parts
    · exact absurd (hc.shadowed ho (Ne.symm hne) hk) hkeep
    · rw [if_neg ho] at hold
      refine h key other hold hk hexempt fun hm => ?_
      exact (List.mem_cons.1 hm).elim (fun he => hne he.symm) hpending

/-- A file whose keys are noted for no other one shadows nothing. -/
theorem SoleOwner.not_shadowed (h : c.SoleOwner file) (keys : List String) (other : Location) :
    ¬ c.Shadowed file keys other := by
  rintro ⟨hne, key, -, ho, hk⟩
  exact hne (h key other ho hk)

/-- Dropping a file notes no keys for another one. -/
theorem SoleOwner.dropFile (hc : c.Sound) (h : c.SoleOwner file) (gone : Location) :
    (c.dropFile gone).SoleOwner file := by
  intro key other ho hk
  rw [owner?, template?_dropFile gone hc] at ho
  rw [keysOf_dropFile] at hk
  split at ho
  · cases ho
  · split at hk
    · cases hk
    · exact h key other ho hk

/-- What another file takes is its own from then on. -/
theorem SoleOwner.installFile {path : FilePath} {ts : List Template} (hc : c.Sound)
    (ht : ∀ t ∈ ts, t.location? = some path.parts) (h : c.SoleOwner file)
    (hne : path.parts ≠ file) : (c.installFile path ts).SoleOwner file := by
  intro key other ho hk
  rw [owner?, template?_installFile path ts hc] at ho
  rw [keysOf_installFile] at hk
  -- The key is one of the new templates, or has the file that it had before.
  cases hnew : lastNamed? ts key with
  | some t =>
    rw [hnew, Option.some_or, Option.bind_some, ht t (mem_of_lastNamed? hnew).1] at ho
    exact absurd (Option.some.inj ho) hne
  | none =>
    rw [hnew, Option.none_or] at ho
    split at ho
    · cases ho
    · split at hk
      · exact absurd hk (lastNamed?_eq_none_iff.1 hnew)
      · exact h key other ho hk

end

/-! ### Dropping several files -/

/-- Gives up files that are gone. -/
def dropFiles (c : Catalog) (gone : List Location) : Catalog := gone.foldl dropFile c

section

variable {c : Catalog} (gone : List Location)

@[simp] theorem dropFiles_nil : c.dropFiles [] = c := rfl

@[simp] theorem dropFiles_cons (file : Location) :
    c.dropFiles (file :: gone) = (c.dropFile file).dropFiles gone := rfl

theorem settings_dropFiles : (c.dropFiles gone).settings = c.settings := by
  induction gone generalizing c with
  | nil => rfl
  | cons file gone ih => rw [dropFiles_cons, ih, settings_dropFile]

/-- For files that are dropped no keys are noted, and for the others what was. -/
theorem get?_fileKeys_dropFiles (file : Location) : (c.dropFiles gone).fileKeys.get? file =
    if file ∈ gone then none else c.fileKeys.get? file := by
  induction gone generalizing c with
  | nil => simp
  | cons other gone ih =>
    rw [dropFiles_cons, ih, fileKeys_dropFile, Dictionary.get?_erase]
    by_cases h : other = file <;> by_cases hm : file ∈ gone <;> grind

/-- A catalog stays sound if files are dropped. -/
theorem Sound.dropFiles (hc : c.Sound) : (c.dropFiles gone).Sound := by
  induction gone generalizing c with
  | nil => exact hc
  | cons file gone ih => exact ih (hc.dropFile file)

/-- Dropping files removes the templates that were read from them. -/
theorem template?_dropFiles (hc : c.Sound) (key : String) :
    (c.dropFiles gone).template? key = (c.template? key).filter fun t => !t.isAt gone := by
  induction gone generalizing c with
  | nil =>
    rw [dropFiles_nil]
    cases c.template? key <;> simp [Option.filter]
  | cons file gone ih =>
    rw [dropFiles_cons, ih (hc.dropFile file), template?_dropFile file hc, ite_owner?_eq,
      Option.filter_filter]
    simp only [Template.isAt_cons, Bool.not_or, Bool.and_comm]

/-- No step makes a file count as loaded. -/
theorem mark?_dropFiles_of_some {file : Location} {m : Signature}
    (h : (c.dropFiles gone).mark? file = some m) : file ∉ gone ∧ c.mark? file = some m := by
  induction gone generalizing c with
  | nil => exact ⟨List.not_mem_nil, h⟩
  | cons other gone ih =>
    obtain ⟨hm, hrest⟩ := ih h
    rw [mark?_dropFile] at hrest
    split at hrest
    · cases hrest
    · next hkeep =>
      rw [not_or] at hkeep
      exact ⟨by simp [hm, Ne.symm hkeep.1], hrest⟩

/-- Dropping files leaves no key without a template and with a marked file. -/
theorem Covers.dropFiles {exempt : List String} {pending : List Location} (hc : c.Sound)
    (h : c.Covers exempt pending) : (c.dropFiles gone).Covers exempt pending := by
  induction gone generalizing c with
  | nil => exact h
  | cons file gone ih => exact ih (hc.dropFile file) (h.dropFile hc)

/-- Dropping files notes no keys for another one. -/
theorem SoleOwner.dropFiles {file : Location} (hc : c.Sound) (h : c.SoleOwner file) :
    (c.dropFiles gone).SoleOwner file := by
  induction gone generalizing c with
  | nil => exact h
  | cons other gone ih => exact ih (hc.dropFile other) (h.dropFile hc other)

variable {gone} in
/-- Files whose keys are noted for no other one are dropped without the loss of a mark. -/
theorem mark?_dropFiles (hc : c.Sound) (h : ∀ file ∈ gone, c.SoleOwner file) {file : Location}
    (hf : file ∉ gone) : (c.dropFiles gone).mark? file = c.mark? file := by
  induction gone generalizing c with
  | nil => rfl
  | cons other gone ih =>
    rw [List.mem_cons, not_or] at hf
    -- The files that are still to be dropped share no key with another one either.
    have hrest : ∀ l ∈ gone, (c.dropFile other).SoleOwner l := fun l hl =>
      (h l (List.mem_cons_of_mem other hl)).dropFile hc other
    rw [dropFiles_cons, ih (hc.dropFile other) hrest hf.2, mark?_dropFile, if_neg]
    rw [not_or]
    exact ⟨Ne.symm hf.1, (h other List.mem_cons_self).not_shadowed _ _⟩

end

/-! ### Taking several files -/

/-- Takes the templates of files that were read. -/
def installFiles (c : Catalog) (loaded : List (FilePath × List Template)) : Catalog :=
  loaded.foldl (fun c e => c.installFile e.1 e.2) c

/-- The places of files that were read. -/
def placesOf (loaded : List (FilePath × List Template)) : List Location :=
  loaded.map fun e => e.1.parts

/-- Files at different places, with templates that were read from them. -/
structure Separate (loaded : List (FilePath × List Template)) : Prop where
  nodup : (placesOf loaded).Nodup
  own : ∀ e ∈ loaded, ∀ t ∈ e.2, t.location? = some e.1.parts

section

variable {c : Catalog} {loaded : List (FilePath × List Template)} {e : FilePath × List Template}

theorem Separate.tail (h : Separate (e :: loaded)) : Separate loaded :=
  ⟨(List.nodup_cons.1 h.nodup).2, fun d hd => h.own d (List.mem_cons_of_mem e hd)⟩

/-- No later one of separate files stands where the first one does. -/
theorem Separate.head_not_mem (h : Separate (e :: loaded)) : e.1.parts ∉ placesOf loaded :=
  (List.nodup_cons.1 h.nodup).1

/-- The templates of the first of separate files were read from it. -/
theorem Separate.own_head (h : Separate (e :: loaded)) : ∀ t ∈ e.2, t.location? = some e.1.parts :=
  h.own e List.mem_cons_self

/-- The last template of a key is the last one in its own file. -/
theorem Separate.lastNamed?_of_flatMap (h : Separate loaded) (he : e ∈ loaded) {key : String}
    {t : Template} (ht : lastNamed? (loaded.flatMap Prod.snd) key = some t)
    (hl : t.location? = some e.1.parts) : lastNamed? e.2 key = some t := by
  induction loaded with
  | nil => cases he
  | cons d loaded ih =>
    rw [List.flatMap_cons, lastNamed?_append, Option.or_eq_some_iff] at ht
    -- A template of the one file is at the other one's place only if they are one file.
    rcases List.mem_cons.1 he with rfl | he
    · rcases ht with ht | ⟨-, ht⟩
      · obtain ⟨d, hd, htd⟩ := List.mem_flatMap.1 (mem_of_lastNamed? ht).1
        rw [h.tail.own d hd t htd, Option.some.injEq] at hl
        exact absurd (List.mem_map.2 ⟨d, hd, hl⟩) h.head_not_mem
      · exact ht
    · rcases ht with ht | ⟨-, ht⟩
      · exact ih h.tail he ht
      · rw [h.own_head t (mem_of_lastNamed? ht).1, Option.some.injEq] at hl
        exact absurd (List.mem_map.2 ⟨e, he, hl.symm⟩) h.head_not_mem

@[simp] theorem installFiles_nil : c.installFiles [] = c := rfl

@[simp] theorem installFiles_cons :
    c.installFiles (e :: loaded) = (c.installFile e.1 e.2).installFiles loaded := rfl

theorem settings_installFiles : (c.installFiles loaded).settings = c.settings := by
  induction loaded generalizing c with
  | nil => rfl
  | cons e loaded ih => rw [installFiles_cons, ih, settings_installFile]

/-- Taking files notes nothing for the others. -/
theorem get?_fileKeys_installFiles_of_not_mem {file : Location} (h : file ∉ placesOf loaded) :
    (c.installFiles loaded).fileKeys.get? file = c.fileKeys.get? file := by
  induction loaded generalizing c with
  | nil => rfl
  | cons e loaded ih =>
    rw [placesOf, List.map_cons, List.mem_cons, not_or] at h
    rw [installFiles_cons, ih h.2, get?_fileKeys_installFile, if_neg (Ne.symm h.1)]

/-- For each of the files that are taken the keys of its templates are noted. -/
theorem get?_fileKeys_installFiles (h : Separate loaded) (he : e ∈ loaded) :
    (c.installFiles loaded).fileKeys.get? e.1.parts = some (e.2.map Template.key) := by
  induction loaded generalizing c with
  | nil => cases he
  | cons d loaded ih =>
    rw [installFiles_cons]
    rcases List.mem_cons.1 he with rfl | he
    · rw [get?_fileKeys_installFiles_of_not_mem h.head_not_mem, get?_fileKeys_installFile,
        if_pos rfl]
    · exact ih h.tail he

/-- A catalog stays sound if separate files are taken. -/
theorem Sound.installFiles (hc : c.Sound) (h : Separate loaded) :
    (c.installFiles loaded).Sound := by
  induction loaded generalizing c with
  | nil => exact hc
  | cons e loaded ih => exact ih (hc.installFile h.own_head) h.tail

/-- The last of the templates that were read counts; without one a key keeps its template, unless
    its file was read. -/
theorem template?_installFiles (hc : c.Sound) (h : Separate loaded) (key : String) :
    (c.installFiles loaded).template? key = (lastNamed? (loaded.flatMap Prod.snd) key).or
      ((c.template? key).filter fun t => !t.isAt (placesOf loaded)) := by
  induction loaded generalizing c with
  | nil =>
    rw [installFiles_nil]
    cases c.template? key <;> simp [placesOf, Option.filter]
  | cons e loaded ih =>
    rw [installFiles_cons, ih (hc.installFile h.own_head) h.tail, template?_installFile _ _ hc,
      ite_owner?_eq, List.flatMap_cons, lastNamed?_append, Option.or_assoc]
    congr 1
    cases hnew : lastNamed? e.2 key with
    | some t =>
      -- It was read from the first file, which is none of the others.
      have hl : t.location? = some e.1.parts := h.own_head t (mem_of_lastNamed? hnew).1
      simp [Template.isAt_eq_false hl h.head_not_mem]
    | none =>
      rw [Option.none_or, Option.none_or, Option.filter_filter]
      simp only [placesOf, List.map_cons, Template.isAt_cons, Bool.not_or]

/-- Taking files gives no file a mark. -/
theorem mark?_installFiles_of_some {file : Location} {m : Signature}
    (h : (c.installFiles loaded).mark? file = some m) : c.mark? file = some m := by
  induction loaded generalizing c with
  | nil => exact h
  | cons e loaded ih =>
    have hrest := ih h
    rw [mark?_installFile] at hrest
    split at hrest
    · cases hrest
    · exact hrest

/-- Files that waited for their turn wait no longer once they are taken. -/
theorem Covers.installFiles {exempt : List String} (hc : c.Sound) (h : Separate loaded)
    (hcov : c.Covers exempt (placesOf loaded)) : (c.installFiles loaded).Covers exempt [] := by
  induction loaded generalizing c with
  | nil => exact hcov
  | cons e loaded ih => exact ih (hc.installFile h.own_head) h.tail (hcov.installFile hc)

/-- Files whose keys are noted for no other one are taken without the loss of a mark. -/
theorem mark?_installFiles (hc : c.Sound) (h : Separate loaded)
    (hsole : ∀ file ∈ placesOf loaded, c.SoleOwner file) (file : Location) :
    (c.installFiles loaded).mark? file = c.mark? file := by
  induction loaded generalizing c with
  | nil => rfl
  | cons e loaded ih =>
    have hrest : ∀ l ∈ placesOf loaded, (c.installFile e.1 e.2).SoleOwner l := fun l hl =>
      (hsole l (List.mem_cons_of_mem _ hl)).installFile hc h.own_head
        fun he => h.head_not_mem (he ▸ hl)
    rw [installFiles_cons, ih (hc.installFile h.own_head) h.tail hrest, mark?_installFile, if_neg]
    exact (hsole e.1.parts List.mem_cons_self).not_shadowed _ _

end

end Catalog

end QueryBook
