import QueryBook.Proofs.Catalog.Scanned

namespace QueryBook

open Files (Location FilePath Signature XmlFile)

/-!
# Files that fail in a scan

A file fails if one cannot look at it, if it cannot be read as text, or if its text is no document
or has an entry whose type is missing or unknown.

* `XmlFile.fault?` — why a file gives no templates.
* `Catalog.failuresOf` — the files that fail in a scan, in closed form.
* `Catalog.report_scan`, `failures_scanned` — what a scan reports, and what is known of it later.
-/

/-- Why a file gives no templates. -/
def Files.XmlFile.fault? (f : XmlFile) (connection : String) : Option LoadFault :=
  match f.signature with
  | .error fault => some (.file fault)
  | .ok _ =>
    match loadFile f connection with
    | .ok _ => none
    | .error fault => some fault

/-- The failure of a file, unless it is passed over. -/
def Freshness.failure? (fr : Freshness) (connection : String) (f : XmlFile) : Option Failure :=
  if fr.isCurrent f then none
  else (f.fault? connection).map fun fault => ⟨f.path, fault⟩

/-- A file that gives no templates has a reason why, and only such a file. -/
theorem Files.XmlFile.templates?_eq_none_iff {f : XmlFile} {connection : String} :
    f.templates? connection = none ↔ ∃ fault, f.fault? connection = some fault := by
  unfold templates? fault?
  cases f.signature with
  | error fault => simp
  | ok s => cases loadFile f connection <;> simp [Except.toOption]

/-! ### The files of a listing -/

section

variable {connection : String} {files : List XmlFile}

/-- A file that fails comes behind those that failed before. -/
theorem Survey.failures_take (s : Survey) (f : XmlFile) : (s.take connection f).failures =
    s.failures ++ (s.freshness.failure? connection f).toList := by
  unfold take Freshness.failure? Freshness.isCurrent XmlFile.fault?
  cases f.signature with
  | error fault => simp
  | ok signature =>
    by_cases hl : s.freshness.isLatest f.location signature
    · simp [hl]
    · cases loadFile f connection <;> simp [hl]

/-- A file that is passed over is counted. -/
theorem Survey.skipped_take (s : Survey) (f : XmlFile) : (s.take connection f).skipped =
    s.skipped + if s.freshness.isCurrent f then 1 else 0 := by
  unfold take Freshness.isCurrent
  cases f.signature with
  | error fault => simp
  | ok signature =>
    by_cases hl : s.freshness.isLatest f.location signature
    · simp [hl]
    · cases loadFile f connection <;> simp [hl]

/-- Each file is judged by what was known of it before the first one was looked at. -/
theorem failures_foldl_take (connection : String) (s : Survey) (h : (files.map XmlFile.location).Nodup) :
    (files.foldl (Survey.take connection) s).failures =
        s.failures ++ files.filterMap (s.freshness.failure? connection) ∧
      (files.foldl (Survey.take connection) s).skipped =
        s.skipped + files.countP s.freshness.isCurrent := by
  induction files generalizing s with
  | nil => simp
  | cons f files ih =>
    -- A step changes the mark of its own file only, and no file comes twice.
    have hcurrent : ∀ g ∈ files,
        (s.take connection f).freshness.isCurrent g = s.freshness.isCurrent g := fun g hg =>
      Freshness.isCurrent_congr (get?_freshness_take_of_nodup s h hg)
    have hfailures : files.filterMap ((s.take connection f).freshness.failure? connection) =
        files.filterMap (s.freshness.failure? connection) :=
      List.filterMap_congr fun g hg => by
        rw [Freshness.failure?, Freshness.failure?, hcurrent g hg]
    have hskipped : files.countP (s.take connection f).freshness.isCurrent =
        files.countP s.freshness.isCurrent :=
      List.countP_congr fun g hg => by rw [hcurrent g hg]
    obtain ⟨hf, hs⟩ := ih (s.take connection f) (List.nodup_cons.1 h).2
    rw [List.foldl_cons, hf, hs, hfailures, hskipped, Survey.failures_take, Survey.skipped_take]
    refine ⟨?_, ?_⟩
    · rw [List.filterMap_cons, List.append_assoc]
      cases s.freshness.failure? connection f <;> rfl
    · rw [List.countP_cons]
      omega

end

namespace Catalog

/-- The files of a listing that a scan fails to load. -/
def failuresOf (c : Catalog) (files : List XmlFile) : List Failure :=
  files.filterMap (c.freshness.failure? c.defaultConnection)

section

variable {c : Catalog} {files : List XmlFile} {f : XmlFile}

/-- A scan fails to load the files that it does not pass over and that give no templates. -/
theorem mem_failuresOf {e : Failure} : e ∈ c.failuresOf files ↔ ∃ f ∈ files,
    c.isFresh f = false ∧ f.fault? c.defaultConnection = some e.fault ∧ f.path = e.path := by
  rw [failuresOf, List.mem_filterMap]
  refine exists_congr fun f => and_congr_right fun _ => ?_
  rw [Freshness.failure?, isFresh]
  cases c.freshness.isCurrent f with
  | true => simp
  | false =>
    obtain ⟨path, fault⟩ := e
    simp only [Bool.false_eq_true, if_false, true_and, Option.map_eq_some_iff, Failure.mk.injEq]
    constructor
    · rintro ⟨fault', hfault, hpath, rfl⟩
      exact ⟨hfault, hpath⟩
    · rintro ⟨hfault, hpath⟩
      exact ⟨fault, hfault, hpath, rfl⟩

variable (hd : (files.map XmlFile.location).Nodup)
include hd

/-- The report of a scan: how many files it has read and passed over, and those that have failed. -/
theorem report_scan : (c.scan (.ok files)).1 =
    .ok ⟨(c.readsOf files).length, files.countP c.isFresh, c.failuresOf files⟩ := by
  obtain ⟨hfailures, hskipped⟩ :=
    failures_foldl_take c.defaultConnection { freshness := c.freshness } hd
  have hloaded := loaded_survey { c with scans := c.scans + 1 } hd
  simp only [List.nil_append, Nat.zero_add] at hfailures hskipped
  simp only [scan, hloaded]
  unfold survey
  rw [hfailures, hskipped]
  rfl

/-- What failed in a scan is known until the next one. -/
theorem failures_scanned : (c.scanned files).failures = c.failuresOf files := by
  have hfailures :=
    (failures_foldl_take c.defaultConnection { freshness := c.freshness } hd).1
  rw [List.nil_append] at hfailures
  exact hfailures

end

end Catalog

end QueryBook
