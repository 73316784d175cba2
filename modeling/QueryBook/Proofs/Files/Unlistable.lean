import QueryBook.Files.Disk

namespace QueryBook.Files

/-!
# Directories that cannot be listed

A listing is all or nothing: it fails exactly if its directory, or a directory at any depth below
it, cannot be listed. Files of which nothing can be known do not make it fail.

* `Node.Unlistable`, `Disk.Unlistable` — an entry, a path that cannot be listed.
* `Disk.exists_xmlFiles_error_iff` — which listings fail.
-/

/-- A directory that cannot be listed, or one that is above such a directory. -/
inductive Node.Unlistable : Node → Prop
  | closed (fault : Fault) : Unlistable (.closed fault)
  | inner {entries : List (String × Node)} {name : String} {node : Node} :
      (name, node) ∈ entries → node.Unlistable → Unlistable (.directory entries)

/-- A path that leads to no directory, or to one that cannot be listed. -/
def Disk.Unlistable (d : Disk) (p : FilePath) : Prop :=
  ∀ node, d.find p = .ok node → node.isDirectory = false ∨ node.Unlistable

/-- A directory is unlistable if one of its entries is. -/
theorem unlistable_directory_iff {entries : List (String × Node)} :
    (Node.directory entries).Unlistable ↔ ∃ e ∈ entries, e.2.Unlistable := by
  constructor
  · rintro (_ | ⟨hmem, hnode⟩)
    exact ⟨_, hmem, hnode⟩
  · rintro ⟨⟨name, node⟩, hmem, hnode⟩
    exact .inner hmem hnode

/-- A row of entries is collected unless one of them is not. -/
theorem exists_collect_error_iff :
    (∀ (p : FilePath) (name : String) (node : Node),
      (∃ e, node.collect p name = .error e) ↔ node.Unlistable) ∧
    ∀ (p : FilePath) (entries : List (String × Node)),
      (∃ e, collectEntries p entries = .error e) ↔ ∃ e ∈ entries, e.2.Unlistable := by
  -- On the tree, for entries and for lists of them at once.
  refine Node.collect.mutual_induct _ _ ?_ ?_ ?_ ?_ ?_ ?_
  case refine_1 =>
    intro p name entries ih
    rw [Node.collect, ih, unlistable_directory_iff]
  case refine_2 =>
    intro p name fault
    rw [Node.collect]
    exact ⟨fun _ => .closed fault, fun _ => ⟨_, rfl⟩⟩
  case refine_3 =>
    intro p name f
    rw [Node.collect]
    exact ⟨fun ⟨_, he⟩ => (nomatch he), fun h => (nomatch h)⟩
  case refine_4 =>
    intro p name fault
    rw [Node.collect]
    exact ⟨fun ⟨_, he⟩ => (nomatch he), fun h => (nomatch h)⟩
  case refine_5 =>
    intro p
    rw [collectEntries]
    exact ⟨fun ⟨_, he⟩ => (nomatch he), fun ⟨_, hmem, _⟩ => (nomatch hmem)⟩
  case refine_6 =>
    intro p name node entries ihnode ihentries
    simp only [List.mem_cons, exists_eq_or_imp, ← ihnode, ← ihentries]
    rw [collectEntries]
    cases node.collect (p.join name) name with
    | error e => exact ⟨fun _ => .inl ⟨e, rfl⟩, fun _ => ⟨e, rfl⟩⟩
    | ok files =>
      cases collectEntries p entries with
      | error e => exact ⟨fun _ => .inr ⟨e, rfl⟩, fun _ => ⟨e, rfl⟩⟩
      | ok more =>
        constructor
        · rintro ⟨e, he⟩
          cases he
        · rintro (⟨e, he⟩ | ⟨e, he⟩)
          · cases he
          · cases he

/-- The directories that can be listed are those of which all directories below can be. -/
theorem Node.exists_xmlFiles_error_iff (p : FilePath) (node : Node) :
    (∃ e, node.xmlFiles p = .error e) ↔ node.isDirectory = false ∨ node.Unlistable := by
  cases node with
  | directory entries =>
    have hentries := exists_collect_error_iff.2 p entries
    rw [← unlistable_directory_iff] at hentries
    rw [Node.xmlFiles, isDirectory, ← hentries]
    cases collectEntries p entries with
    | error e => exact ⟨fun _ => .inr ⟨e, rfl⟩, fun _ => ⟨e, rfl⟩⟩
    | ok files =>
      constructor
      · rintro ⟨e, he⟩
        cases he
      · rintro (he | ⟨e, he⟩)
        · cases he
        · cases he
  | closed fault => exact ⟨fun _ => .inr (.closed fault), fun _ => ⟨_, rfl⟩⟩
  | file f => exact ⟨fun _ => .inl rfl, fun _ => ⟨_, rfl⟩⟩
  | broken fault => exact ⟨fun _ => .inl rfl, fun _ => ⟨_, rfl⟩⟩

/-- A listing fails exactly if its directory cannot be listed, or one below it. -/
theorem Disk.exists_xmlFiles_error_iff (d : Disk) (p : FilePath) :
    (∃ e, d.xmlFiles p = .error e) ↔ d.Unlistable p := by
  rw [Disk.xmlFiles, Disk.Unlistable]
  cases hfind : d.find p with
  | error fault => exact ⟨fun _ _ he => (nomatch he), fun _ => ⟨_, rfl⟩⟩
  | ok node =>
    rw [Node.exists_xmlFiles_error_iff]
    exact ⟨fun h n hn => Except.ok.inj hn ▸ h, fun h => h node rfl⟩

end QueryBook.Files
