import QueryBook.Proofs.Catalog.Scanned

namespace QueryBook

open Files (Disk Location FilePath Signature XmlFile)

/-!
# The files that give a key

What becomes of one key in a scan: of the files that are read the last one that defines it counts.

* `XmlFile.Defines` — a file gives a template of a key.
* `Catalog.takers` — the files that define a key and that a scan reads; `Catalog.lastIn?` — what one
  of them gives.
* `Catalog.template?_scanned_of_taker` — the last of them gives the template.
* `Catalog.template?_scanned_of_takers_eq_nil` — without them a template stays if its file is not
  read.
* `Catalog.template?_scanned_eq_none_iff` — which missing keys a scan leaves missing.
-/

/-- A file gives a template of a key. -/
def Files.XmlFile.Defines (f : XmlFile) (connection key : String) : Prop :=
  ∃ ts, f.templates? connection = some ts ∧ key ∈ ts.map Template.key

instance (f : XmlFile) (connection key : String) : Decidable (f.Defines connection key) :=
  decidable_of_iff
    ((f.templates? connection).any fun ts => decide (key ∈ ts.map Template.key)) <| by
    rw [Files.XmlFile.Defines]
    cases f.templates? connection <;> simp

namespace Catalog

/-- The files of a listing that define a key and that a scan reads, in order. -/
def takers (c : Catalog) (files : List XmlFile) (key : String) : List XmlFile :=
  files.filter fun f => !c.isFresh f && decide (f.Defines c.defaultConnection key)

/-- The last template of a key in a file. -/
def lastIn? (c : Catalog) (key : String) (f : XmlFile) : Option Template :=
  (f.templates? c.defaultConnection).bind fun ts => lastNamed? ts key

section

variable {c : Catalog} {files : List XmlFile} {key : String} {f : XmlFile}

/-- A file takes a key if the scan reads it and it defines the key. -/
theorem mem_takers : f ∈ c.takers files key ↔
    f ∈ files ∧ c.isFresh f = false ∧ f.Defines c.defaultConnection key := by
  rw [takers, List.mem_filter, Bool.and_eq_true, Bool.not_eq_true', decide_eq_true_iff]

/-- A file has no template of the keys that it does not define, and only of these. -/
theorem lastIn?_eq_none_iff : c.lastIn? key f = none ↔ ¬ f.Defines c.defaultConnection key := by
  rw [lastIn?, XmlFile.Defines, Option.bind_eq_none_iff]
  simp only [lastNamed?_eq_none_iff, not_exists, not_and]

/-- What one file adds to what is read of a key. -/
theorem lastNamed?_read? :
    lastNamed? ((c.freshness.read? c.defaultConnection f).toList.flatMap Prod.snd) key =
      if c.isFresh f then none else c.lastIn? key f := by
  rw [Freshness.read?, lastIn?, isFresh]
  cases c.freshness.isCurrent f with
  | true => rfl
  | false => cases f.templates? c.defaultConnection <;> simp

/-- Of the files that define a key and are read the last one gives the template. -/
theorem lastNamed?_readsOf (c : Catalog) (files : List XmlFile) (key : String) :
    lastNamed? ((c.readsOf files).flatMap Prod.snd) key =
      (c.takers files key).getLast?.bind (c.lastIn? key) := by
  induction files with
  | nil => rfl
  | cons f files ih =>
    rw [readsOf, Freshness.reads_cons, List.flatMap_append, lastNamed?_append, lastNamed?_read?]
    rw [readsOf] at ih
    rw [ih]
    by_cases hf : c.isFresh f = false ∧ f.Defines c.defaultConnection key
    · have htakers : c.takers (f :: files) key = f :: c.takers files key :=
        List.filter_cons_of_pos (by simp [hf.1, hf.2])
      rw [hf.1, if_neg Bool.false_ne_true, htakers, List.getLast?_cons]
      cases hlast : (c.takers files key).getLast? with
      | none => simp
      | some g =>
        -- A file that takes the key has a template for it, which stands over the first file's.
        have hg := (mem_takers.1 (List.mem_of_getLast? hlast)).2.2
        obtain ⟨t, ht⟩ := Option.ne_none_iff_exists'.1 (mt lastIn?_eq_none_iff.1 (not_not.2 hg))
        simp [ht]
    · have htakers : c.takers (f :: files) key = c.takers files key :=
        List.filter_cons_of_neg (by simpa using hf)
      have hnone : (if c.isFresh f = true then none else c.lastIn? key f) = none := by
        split
        · rfl
        · next hcur =>
          rw [lastIn?_eq_none_iff]
          exact fun hdef => hf ⟨Bool.not_eq_true _ ▸ hcur, hdef⟩
      rw [hnone, Option.or_none, htakers]

/-- A file that defines a key which no file takes is passed over. -/
theorem isFresh_of_takers_eq_nil (h : c.takers files key = []) (hf : f ∈ files)
    (hdef : f.Defines c.defaultConnection key) : c.isFresh f = true := by
  by_contra hcur
  have hm : f ∈ c.takers files key := mem_takers.2 ⟨hf, Bool.not_eq_true _ ▸ hcur, hdef⟩
  rw [h] at hm
  cases hm

variable (hd : (files.map XmlFile.location).Nodup)
include hd

/-- The last file that takes a key gives its template. -/
theorem template?_scanned_of_taker (hc : c.Sound) (h : (c.takers files key).getLast? = some f) :
    ∃ ts t, f.templates? c.defaultConnection = some ts ∧ lastNamed? ts key = some t ∧
      t.source = some f.path ∧ (c.scanned files).template? key = some t := by
  have hdef := (mem_takers.1 (List.mem_of_getLast? h)).2.2
  obtain ⟨t, ht⟩ := Option.ne_none_iff_exists'.1 (mt lastIn?_eq_none_iff.1 (not_not.2 hdef))
  obtain ⟨ts, hts, hlast⟩ := Option.bind_eq_some_iff.1 ht
  refine ⟨ts, t, hts, hlast, ?_, ?_⟩
  · exact XmlFile.source_of_templates? hts (mem_of_lastNamed? hlast).1
  · rw [template?_scanned hd hc, lastNamed?_readsOf, h, Option.bind_some, ht, Option.some_or]

/-- A key that no file takes keeps the template of a listed file that is not read. -/
theorem template?_scanned_of_takers_eq_nil (hc : c.Sound) (h : c.takers files key = [])
    (hf : f ∈ files) (hskip : c.Skips f) {t : Template} (ht : c.template? key = some t)
    (hl : t.location? = some f.location) : (c.scanned files).template? key = some t := by
  have hgone : t.isAt (c.vanished files) = false :=
    Template.isAt_eq_false hl (not_mem_vanished hf)
  have hread : t.isAt (placesOf (c.readsOf files)) = false :=
    Template.isAt_eq_false hl (not_mem_placesOf_readsOf hd hf hskip)
  rw [template?_scanned hd hc, lastNamed?_readsOf, h, ht]
  simp [Option.filter, hgone, hread]

/-- A key that is missing stays so if all files that define it are passed over. -/
theorem template?_scanned_eq_none_iff (hc : c.Sound) (hnone : c.template? key = none) :
    (c.scanned files).template? key = none ↔
      ∀ f ∈ files, f.Defines c.defaultConnection key → c.isFresh f = true := by
  constructor
  · intro hafter f hf hdef
    -- A taker would give the key its template.
    cases htake : (c.takers files key).getLast? with
    | none => exact isFresh_of_takers_eq_nil (List.getLast?_eq_none_iff.1 htake) hf hdef
    | some g =>
      obtain ⟨ts, t, -, -, -, ht⟩ := template?_scanned_of_taker hd hc htake
      rw [hafter] at ht
      cases ht
  · intro hfresh
    have hnil : c.takers files key = [] := by
      rw [List.eq_nil_iff_forall_not_mem]
      intro f hm
      obtain ⟨hf, hcur, hdef⟩ := mem_takers.1 hm
      exact Bool.false_ne_true (hcur.symm.trans (hfresh f hf hdef))
    rw [template?_scanned hd hc, lastNamed?_readsOf, hnil, hnone]
    rfl

end

end Catalog

end QueryBook
