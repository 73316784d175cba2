import QueryBook.Catalog.Scan

namespace QueryBook

open Files (Location FilePath Signature XmlFile)

/-!
# Which file a key belongs to

A catalog is looked at in four ways: the template of a key, the file it was read from, the keys that
are noted for a file, and the mark of a file. What the steps of a scan do is said through these
views.

* `lastNamed?` — the template of a key in a list; the last one counts.
* `Catalog.template?`, `Catalog.owner?`, `Catalog.keysOf`, `Catalog.mark?` — the views.
* `Catalog.Sound` — each loaded template stands under its own key, which is noted for its file.
* `Catalog.Shadowed` — a file loses its mark when another one gives up a key that both define.
* `template?_releaseFile`, `template?_installFile` and their like — one equation for each step and
  view.
-/

/-! ### Templates of a key -/

/-- The template of a key in a list. Of several the last one counts. -/
def lastNamed? (templates : List Template) (key : String) : Option Template :=
  templates.reverse.find? fun t => t.key == key

@[simp] theorem lastNamed?_nil (key : String) : lastNamed? [] key = none := rfl

/-- What comes later in a list goes before what comes earlier. -/
theorem lastNamed?_append (ts us : List Template) (key : String) :
    lastNamed? (ts ++ us) key = (lastNamed? us key).or (lastNamed? ts key) := by
  simp [lastNamed?, List.find?_append]

/-- The first template of a list counts for its key only if no later one has this key. -/
theorem lastNamed?_cons (t : Template) (ts : List Template) (key : String) :
    lastNamed? (t :: ts) key = (lastNamed? ts key).or (if t.key = key then some t else none) := by
  rw [← List.singleton_append, lastNamed?_append]
  by_cases h : t.key = key <;> simp [lastNamed?, h]

/-- The template that counts for a key is in the list, and the key is its own. -/
theorem mem_of_lastNamed? {ts : List Template} {key : String} {t : Template}
    (h : lastNamed? ts key = some t) : t ∈ ts ∧ t.key = key := by
  refine ⟨?_, ?_⟩
  · exact List.mem_reverse.1 (List.mem_of_find?_eq_some h)
  · exact eq_of_beq (List.find?_some h :)

/-- A list has no template for the keys that none of its templates has, and only for these. -/
theorem lastNamed?_eq_none_iff {ts : List Template} {key : String} :
    lastNamed? ts key = none ↔ key ∉ ts.map Template.key := by
  simp [lastNamed?]

namespace Catalog

/-! ### The views -/

/-- The template that is loaded for a key. -/
def template? (c : Catalog) (key : String) : Option Template :=
  (c.templates.get? key).map Loaded.template

/-- The file that the template of a key was read from. -/
def owner? (c : Catalog) (key : String) : Option Location :=
  (c.template? key).bind Template.location?

/-- The keys that are noted for a file. -/
def keysOf (c : Catalog) (file : Location) : List String := (c.fileKeys.get? file).getD []

/-- What a file looked like when it was loaded, if it counts as loaded. -/
def mark? (c : Catalog) (file : Location) : Option Signature := c.freshness.get? file

/-- The directory, and the connection of templates that name none. No step changes them. -/
def settings (c : Catalog) : FilePath × String := (c.root, c.defaultConnection)

/-- Every loaded template stands under its own key, and this key is noted for the file that the
    template was read from. -/
structure Sound (c : Catalog) : Prop where
  key_eq : ∀ {key t}, c.template? key = some t → t.key = key
  owned : ∀ {key t}, c.template? key = some t →
    ∃ file, t.location? = some file ∧ key ∈ c.keysOf file

/-- In a sound catalog the owner of a key has it among its keys. -/
theorem Sound.mem_keysOf {c : Catalog} (hc : c.Sound) {key : String} {file : Location}
    (h : c.owner? key = some file) : key ∈ c.keysOf file := by
  obtain ⟨t, ht, hl⟩ := Option.bind_eq_some_iff.1 h
  obtain ⟨file', hl', hk⟩ := hc.owned ht
  rw [hl] at hl'
  exact Option.some.inj hl' ▸ hk

/-- A template that does not belong to a file was read from another one, which has the key noted. -/
theorem Sound.owned_of_ne {c : Catalog} (hc : c.Sound) {key : String} {t : Template}
    {file : Location} (h : c.template? key = some t) (hne : c.owner? key ≠ some file) :
    ∃ other, file ≠ other ∧ t.location? = some other ∧ key ∈ c.keysOf other := by
  obtain ⟨other, hl, hk⟩ := hc.owned h
  refine ⟨other, ?_, hl, hk⟩
  rintro rfl
  exact hne (by rw [owner?, h, Option.bind_some, hl])

/-- It is said through two of the views only. -/
theorem Sound.congr {c c' : Catalog} (hc : c.Sound) (htemplate : c'.template? = c.template?)
    (hkeys : c'.fileKeys = c.fileKeys) : c'.Sound := by
  constructor
  · intro key t h
    exact hc.key_eq (htemplate ▸ h)
  · intro key t h
    obtain ⟨file, hl, hk⟩ := hc.owned (htemplate ▸ h)
    exact ⟨file, hl, by rw [keysOf, hkeys]; exact hk⟩

/-- A file owns the key of which it gave the template. -/
theorem owns_iff {c : Catalog} {file : Location} {key : String} :
    c.owns file key = true ↔ c.owner? key = some file := by
  simp only [owns, owner?, template?]
  cases c.templates.get? key <;> simp

/-- Another file than the one that gives up some keys, with one of those that it really has among
    its own. -/
def Shadowed (c : Catalog) (file : Location) (keys : List String) (other : Location) : Prop :=
  other ≠ file ∧ ∃ key ∈ keys, c.owner? key = some file ∧ key ∈ c.keysOf other

instance (c : Catalog) (file : Location) (keys : List String) (other : Location) :
    Decidable (c.Shadowed file keys other) := inferInstanceAs (Decidable (_ ∧ _))

/-! ### Giving up one key -/

section

variable (c : Catalog) (file : Location) (key : String)

@[simp] theorem settings_releaseKey : (releaseKey file c key).settings = c.settings := by
  unfold releaseKey releaseShadowed
  split <;> rfl

/-- A key that is given up stays noted for its file. -/
@[simp] theorem fileKeys_releaseKey : (releaseKey file c key).fileKeys = c.fileKeys := by
  unfold releaseKey releaseShadowed
  split <;> rfl

@[simp] theorem keysOf_releaseKey : (releaseKey file c key).keysOf = c.keysOf := by
  funext other
  rw [keysOf, fileKeys_releaseKey, keysOf]

/-- A key that is given up loses its template if this was read from the file. -/
theorem template?_releaseKey (key' : String) : (releaseKey file c key).template? key' =
    if key = key' ∧ c.owner? key = some file then none else c.template? key' := by
  unfold releaseKey
  by_cases h : c.owner? key = some file
  · rw [if_pos (owns_iff.2 h)]
    by_cases hk : key = key' <;> simp [template?, releaseShadowed, hk, h]
    simp [hk ▸ h]
  · rw [if_neg (mt owns_iff.1 h), if_neg fun hn => h hn.2]

/-- Forgetting some files takes the marks of these and of no other one. -/
theorem get?_foldl_forget (f : Freshness) (es : List (Location × List String)) (other : Location) :
    (es.foldl (fun f e => f.forget e.1) f : Freshness).get? other =
      if other ∈ es.map Prod.fst then none else f.get? other := by
  induction es generalizing f with
  | nil => simp
  | cons e es ih =>
    rw [List.foldl_cons, ih, Freshness.forget, Dictionary.get?_erase]
    by_cases h : e.1 = other <;> by_cases h' : other ∈ es.map Prod.fst <;> grind

/-- The files that `releaseShadowed` forgets. -/
theorem mem_listing_others {c : Catalog} {file : Location} {key : String} {other : Location} :
    other ∈ (c.fileKeys.entries.filter fun e => e.1 != file && e.2.contains key).map Prod.fst ↔
      other ≠ file ∧ key ∈ c.keysOf other := by
  constructor
  · rintro h
    obtain ⟨⟨l, keys⟩, he, rfl⟩ := List.mem_map.1 h
    obtain ⟨hm, hp⟩ := List.mem_filter.1 he
    have hk : c.fileKeys.get? l = some keys := Dictionary.mem_entries_iff.1 hm
    simpa [keysOf, hk] using hp
  · rintro ⟨hne, hk⟩
    cases hg : c.fileKeys.get? other with
    | none => simp [keysOf, hg] at hk
    | some keys =>
      have hk' : key ∈ keys := by simpa [keysOf, hg] using hk
      refine List.mem_map.2 ⟨(other, keys), List.mem_filter.2 ⟨?_, ?_⟩, rfl⟩
      · exact Dictionary.mem_entries_iff.2 hg
      · simp [hne, hk']

/-- The files that have the key as well lose their marks if the file had it; this is what makes the
    next scan read them again. -/
theorem mark?_releaseKey (other : Location) : (releaseKey file c key).mark? other =
    if c.Shadowed file [key] other then none else c.mark? other := by
  unfold releaseKey
  by_cases h : c.owner? key = some file
  · rw [if_pos (owns_iff.2 h), mark?, releaseShadowed, get?_foldl_forget]
    have hs : c.Shadowed file [key] other ↔ other ≠ file ∧ key ∈ c.keysOf other := by
      simp [Shadowed, h]
    by_cases hm : other ≠ file ∧ key ∈ c.keysOf other
    · rw [if_pos (mem_listing_others.2 hm), if_pos (hs.2 hm)]
    · rw [if_neg (mt mem_listing_others.1 hm), if_neg (mt hs.1 hm), mark?]
  · rw [if_neg (mt owns_iff.1 h), if_neg]
    rintro ⟨-, k, hk, ho, -⟩
    exact h (List.mem_singleton.1 hk ▸ ho)

end

/-! ### Giving up several keys -/

section

variable (c : Catalog) (file : Location) (keys : List String)

@[simp] theorem settings_releaseKeys : (keys.foldl (releaseKey file) c).settings = c.settings := by
  induction keys generalizing c with
  | nil => rfl
  | cons key keys ih => rw [List.foldl_cons, ih, settings_releaseKey]

@[simp] theorem fileKeys_releaseKeys : (keys.foldl (releaseKey file) c).fileKeys = c.fileKeys := by
  induction keys generalizing c with
  | nil => rfl
  | cons key keys ih => rw [List.foldl_cons, ih, fileKeys_releaseKey]

/-- A key that is given up belongs to no file if it belonged to this one. -/
theorem owner?_releaseKey (key key' : String) : (releaseKey file c key).owner? key' =
    if key = key' ∧ c.owner? key = some file then none else c.owner? key' := by
  rw [owner?, template?_releaseKey]
  split <;> rfl

/-- Of several keys that are given up those lose their templates that the file had. -/
theorem template?_releaseKeys (key : String) : (keys.foldl (releaseKey file) c).template? key =
    if key ∈ keys ∧ c.owner? key = some file then none else c.template? key := by
  induction keys generalizing c with
  | nil => simp
  | cons key' keys ih =>
    -- A key that is given up belongs to no file from then on, and is not given up again.
    rw [List.foldl_cons, ih, owner?_releaseKey, template?_releaseKey]
    by_cases h : key' = key <;> by_cases ho : c.owner? key = some file <;> grind

/-- What is shadowed by the first key or by the rest of them is shadowed by all of them. -/
theorem shadowed_cons (key : String) (other : Location) : c.Shadowed file (key :: keys) other ↔
    c.Shadowed file [key] other ∨ (releaseKey file c key).Shadowed file keys other := by
  simp only [Shadowed, keysOf_releaseKey, owner?_releaseKey]
  constructor
  · rintro ⟨hne, k, hk, ho, hm⟩
    by_cases h : key = k
    · exact .inl ⟨hne, k, by simp [h], ho, hm⟩
    · refine .inr ⟨hne, k, (List.mem_cons.1 hk).resolve_left (Ne.symm h), ?_, hm⟩
      rw [if_neg fun hn => h hn.1, ho]
  · rintro (⟨hne, k, hk, ho, hm⟩ | ⟨hne, k, hk, ho, hm⟩)
    · exact ⟨hne, k, by simp [List.mem_singleton.1 hk], ho, hm⟩
    · refine ⟨hne, k, List.mem_cons_of_mem _ hk, ?_, hm⟩
      split at ho
      · cases ho
      · exact ho

/-- A file loses its mark if it is shadowed in one of the keys that are given up. -/
theorem mark?_releaseKeys (other : Location) : (keys.foldl (releaseKey file) c).mark? other =
    if c.Shadowed file keys other then none else c.mark? other := by
  induction keys generalizing c with
  | nil => simp [Shadowed]
  | cons key keys ih =>
    rw [List.foldl_cons, ih, mark?_releaseKey]
    have := shadowed_cons c file keys key other
    by_cases h : c.Shadowed file [key] other <;>
      by_cases h' : (releaseKey file c key).Shadowed file keys other <;> simp [h, h', this]

end

/-! ### Giving up a file -/

section

variable (c : Catalog) (file : Location)

/-- Giving up a file is giving up its keys, after its own entry. -/
theorem releaseFile_eq : c.releaseFile file =
    (c.keysOf file).foldl (releaseKey file) { c with fileKeys := c.fileKeys.erase file } := by
  unfold releaseFile
  cases h : c.fileKeys.get? file with
  | none => simp [keysOf, h, Dictionary.erase_eq_self h]
  | some keys => simp [keysOf, h]

@[simp] theorem settings_releaseFile : (c.releaseFile file).settings = c.settings := by
  rw [releaseFile_eq, settings_releaseKeys]
  rfl

/-- For a file that is given up no keys are noted; what is noted for others stays. -/
@[simp] theorem fileKeys_releaseFile : (c.releaseFile file).fileKeys = c.fileKeys.erase file := by
  rw [releaseFile_eq, fileKeys_releaseKeys]

/-- A file that is given up has no keys, and the others keep theirs. -/
theorem keysOf_releaseFile (other : Location) : (c.releaseFile file).keysOf other =
    if file = other then [] else c.keysOf other := by
  rw [keysOf, fileKeys_releaseFile, Dictionary.get?_erase, keysOf]
  split <;> rfl

variable {c} in
/-- Of the keys that are noted for a file, it gives up those that it has; these are all of its
    own. -/
theorem template?_releaseFile (hc : c.Sound) (key : String) : (c.releaseFile file).template? key =
    if c.owner? key = some file then none else c.template? key := by
  rw [releaseFile_eq, template?_releaseKeys]
  change (if key ∈ c.keysOf file ∧ c.owner? key = some file then none else c.template? key) = _
  by_cases h : c.owner? key = some file
  · rw [if_pos ⟨hc.mem_keysOf h, h⟩, if_pos h]
  · rw [if_neg fun hn => h hn.2, if_neg h]

/-- The files that are shadowed by a file which is given up lose their marks; its own mark stays. -/
theorem mark?_releaseFile (other : Location) : (c.releaseFile file).mark? other =
    if c.Shadowed file (c.keysOf file) other then none else c.mark? other := by
  rw [releaseFile_eq, mark?_releaseKeys]
  -- The entry that is missing is not looked at: it is the file's own.
  have hs : Shadowed { c with fileKeys := c.fileKeys.erase file } file (c.keysOf file) other ↔
      c.Shadowed file (c.keysOf file) other := by
    refine and_congr_right fun hne => ?_
    have hk : keysOf { c with fileKeys := c.fileKeys.erase file } other = c.keysOf other := by
      simp [keysOf, Ne.symm hne]
    rw [hk]
    rfl
  by_cases h : c.Shadowed file (c.keysOf file) other
  · rw [if_pos (hs.2 h), if_pos h]
  · rw [if_neg (mt hs.1 h), if_neg h]
    rfl

variable {c} in
/-- A catalog stays sound if a file is given up. -/
theorem Sound.releaseFile (hc : c.Sound) : (c.releaseFile file).Sound := by
  constructor
  · intro key t h
    rw [template?_releaseFile file hc] at h
    split at h
    · cases h
    · exact hc.key_eq h
  · intro key t h
    rw [template?_releaseFile file hc] at h
    split at h
    · cases h
    · next hne =>
      obtain ⟨other, ho, hl, hk⟩ := hc.owned_of_ne h hne
      exact ⟨other, hl, by rw [keysOf_releaseFile, if_neg ho]; exact hk⟩

/-! ### Dropping a file -/

@[simp] theorem settings_dropFile : (c.dropFile file).settings = c.settings := by
  rw [dropFile, settings_releaseFile]
  rfl

@[simp] theorem fileKeys_dropFile : (c.dropFile file).fileKeys = c.fileKeys.erase file := by
  rw [dropFile, fileKeys_releaseFile]

/-- A file that is dropped has no keys, and the others keep theirs. -/
theorem keysOf_dropFile (other : Location) : (c.dropFile file).keysOf other =
    if file = other then [] else c.keysOf other := by
  rw [dropFile, keysOf_releaseFile]
  rfl

variable {c} in
/-- Marks have no part in what makes a catalog sound. -/
theorem Sound.with_freshness (hc : c.Sound) (f : Freshness) : Sound { c with freshness := f } :=
  ⟨hc.key_eq, hc.owned⟩

variable {c} in
/-- Dropping a file removes the templates that were read from it. -/
theorem template?_dropFile (hc : c.Sound) (key : String) : (c.dropFile file).template? key =
    if c.owner? key = some file then none else c.template? key := by
  rw [dropFile, template?_releaseFile file (hc.with_freshness _)]
  rfl

/-- A file that is dropped loses its own mark, too. -/
theorem mark?_dropFile (other : Location) : (c.dropFile file).mark? other =
    if file = other ∨ c.Shadowed file (c.keysOf file) other then none else c.mark? other := by
  rw [dropFile, mark?_releaseFile]
  have hm : mark? { c with freshness := c.freshness.forget file } other =
      if file = other then none else c.mark? other := by
    rw [mark?, Freshness.forget, Dictionary.get?_erase, mark?]
  have hs : Shadowed { c with freshness := c.freshness.forget file } file
      (keysOf { c with freshness := c.freshness.forget file } file) other ↔
      c.Shadowed file (c.keysOf file) other := Iff.rfl
  rw [hm]
  by_cases h : file = other <;> by_cases h' : c.Shadowed file (c.keysOf file) other <;>
    simp [h, hs, h']

variable {c} in
/-- A catalog stays sound if a file is dropped. -/
theorem Sound.dropFile (hc : c.Sound) : (c.dropFile file).Sound :=
  (hc.with_freshness _).releaseFile file

end

/-! ### Taking templates -/

section

variable (c : Catalog) (ts : List Template)

@[simp] theorem settings_foldl_install : (ts.foldl install c).settings = c.settings := by
  induction ts generalizing c with
  | nil => rfl
  | cons t ts ih => rw [List.foldl_cons, ih]; rfl

@[simp] theorem fileKeys_foldl_install : (ts.foldl install c).fileKeys = c.fileKeys := by
  induction ts generalizing c with
  | nil => rfl
  | cons t ts ih => rw [List.foldl_cons, ih]; rfl

@[simp] theorem mark?_foldl_install : (ts.foldl install c).mark? = c.mark? := by
  induction ts generalizing c with
  | nil => rfl
  | cons t ts ih => rw [List.foldl_cons, ih]; rfl

/-- A template takes the place of the one that its key had. -/
theorem template?_install (t : Template) (key : String) :
    (c.install t).template? key = if t.key = key then some t else c.template? key := by
  rw [template?, install, Dictionary.get?_insert]
  split <;> rfl

/-- Of several templates that are taken the last one with a key counts, and other keys keep
    theirs. -/
theorem template?_foldl_install (key : String) :
    (ts.foldl install c).template? key = (lastNamed? ts key).or (c.template? key) := by
  induction ts generalizing c with
  | nil => simp
  | cons t ts ih =>
    rw [List.foldl_cons, ih, template?_install, lastNamed?_cons, Option.or_assoc]
    by_cases h : t.key = key <;> simp [h]

end

/-! ### Taking the templates of a file -/

section

variable (c : Catalog) (path : FilePath) (ts : List Template)

@[simp] theorem settings_installFile : (c.installFile path ts).settings = c.settings := by
  change (ts.foldl install (c.releaseFile path.parts)).settings = c.settings
  rw [settings_foldl_install, settings_releaseFile]

/-- For a file that is taken the keys of its templates are noted. -/
theorem get?_fileKeys_installFile (other : Location) :
    (c.installFile path ts).fileKeys.get? other =
      if path.parts = other then some (ts.map Template.key) else c.fileKeys.get? other := by
  rw [installFile, Dictionary.get?_insert, fileKeys_foldl_install, fileKeys_releaseFile,
    Dictionary.get?_erase]
  split <;> rfl

/-- A file that is taken has the keys of its templates, and the others keep theirs. -/
theorem keysOf_installFile (other : Location) : (c.installFile path ts).keysOf other =
    if path.parts = other then ts.map Template.key else c.keysOf other := by
  rw [keysOf, get?_fileKeys_installFile, keysOf]
  split <;> rfl

variable {c} in
/-- The new templates stand over what the file does not give up. -/
theorem template?_installFile (hc : c.Sound) (key : String) :
    (c.installFile path ts).template? key = (lastNamed? ts key).or
      (if c.owner? key = some path.parts then none else c.template? key) := by
  rw [← template?_releaseFile path.parts hc, ← template?_foldl_install]
  rfl

/-- The files that the keys of a file shadowed until now lose their marks, also if it defines these
    keys again. -/
theorem mark?_installFile (other : Location) : (c.installFile path ts).mark? other =
    if c.Shadowed path.parts (c.keysOf path.parts) other then none else c.mark? other := by
  rw [← mark?_releaseFile, ← mark?_foldl_install (c.releaseFile path.parts) ts]
  rfl

variable {c path ts} in
/-- A catalog stays sound if templates are taken from the file that they were read from. -/
theorem Sound.installFile (hc : c.Sound) (ht : ∀ t ∈ ts, t.location? = some path.parts) :
    (c.installFile path ts).Sound := by
  constructor
  · intro key t h
    rw [template?_installFile path ts hc] at h
    -- A template is new, or it is an old one of another file.
    rcases Option.or_eq_some_iff.1 h with h | ⟨-, h⟩
    · exact (mem_of_lastNamed? h).2
    · split at h
      · cases h
      · exact hc.key_eq h
  · intro key t h
    rw [template?_installFile path ts hc] at h
    rcases Option.or_eq_some_iff.1 h with h | ⟨-, h⟩
    · obtain ⟨hm, hk⟩ := mem_of_lastNamed? h
      refine ⟨path.parts, ht t hm, ?_⟩
      rw [keysOf_installFile, if_pos rfl]
      exact List.mem_map.2 ⟨t, hm, hk⟩
    · split at h
      · cases h
      · next hne =>
        obtain ⟨other, ho, hl, hk⟩ := hc.owned_of_ne h hne
        exact ⟨other, hl, by rw [keysOf_installFile, if_neg ho]; exact hk⟩

end

end Catalog

end QueryBook
