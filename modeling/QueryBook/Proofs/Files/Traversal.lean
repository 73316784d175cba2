import Mathlib.Algebra.Order.Ring.Nat
import Mathlib.Data.List.Nodup
import Mathlib.Data.List.Perm.Basic
import QueryBook.Proofs.Files.Locations
import QueryBook.Proofs.Files.Order
import QueryBook.Proofs.Files.Unlistable

namespace QueryBook.Files

/-!
# Listing by a traversal

A listing goes through a tree with a stack of the directories that are still to be read. Each round
takes the directory on top, notes its files and puts its subdirectories on the stack. In what order
the entries of a directory come makes no difference: the files are sorted in the end.

* `Node.Leads`, `Node.LeadsToXml` — what a row of names leads to.
* `Walk`, `Walk.Round` — what a traversal holds, and one round, with the entries in any order.
* `Walk.Round.left_eq` — every round leaves one directory less.
* `Walk.Inv.next` — what is noted and what is still to be found stay the same files.
* `Disk.xmlFiles_complete` — a listing has exactly the files that rows of names lead to, in order,
  and so has every traversal.
-/

/-! ### What is below a directory -/

/-- A row of names leads from an entry to an entry. -/
inductive Node.Leads : Node → List String → Node → Prop
  | here (node : Node) : Leads node [] node
  | entry {entries : List (String × Node)} {name : String} {child leaf : Node}
      {names : List String} : (name, child) ∈ entries → child.Leads names leaf →
      Leads (.directory entries) (name :: names) leaf

/-- A row of names leads to something that is no directory and has the extension `xml`. -/
def Node.LeadsToXml (node : Node) (names : List String) : Prop :=
  ∃ leaf, node.Leads names leaf ∧ leaf.isDirectory = false ∧
    ∃ name ∈ names.getLast?, IsXmlName name

/-- What is noted of an entry that is no directory. -/
def Node.found (path : FilePath) (name : String) : Node → List XmlFile
  | .file f => if hasXmlExtension name then [⟨path, .ok f.signature, f.text⟩] else []
  | .broken fault => if hasXmlExtension name then [⟨path, .error fault, .error fault⟩] else []
  | .directory _ | .closed _ => []

section

variable {node leaf : Node} {p path : FilePath} {name : String} {names : List String}
  {entries : List (String × Node)} {files : List XmlFile} {f : XmlFile}

/-- What is collected from an entry that is no directory. -/
theorem collect_of_isDirectory_eq_false (h : node.isDirectory = false) :
    node.collect path name = .ok (node.found path name) := by
  cases node with
  | file f => rw [Node.collect, Node.found]
  | broken fault => rw [Node.collect, Node.found]
  | directory entries => cases h
  | closed fault => cases h

/-- What is noted is the path of an entry that is no directory and has the extension. -/
theorem of_mem_found (h : f ∈ node.found path name) :
    node.isDirectory = false ∧ IsXmlName name ∧ f.path = path := by
  cases node with
  | directory entries => exact absurd h List.not_mem_nil
  | closed fault => exact absurd h List.not_mem_nil
  | file _ | broken _ =>
    rw [Node.found] at h
    split at h
    · next hname =>
      cases List.mem_singleton.1 h
      exact ⟨rfl, hasXmlExtension_iff.1 hname, rfl⟩
    · exact absurd h List.not_mem_nil

/-- An entry that has the extension and is no directory is noted at its path. -/
theorem exists_mem_found (path : FilePath) (h : node.isDirectory = false) (hname : IsXmlName name) :
    ∃ f ∈ node.found path name, f.path = path := by
  cases node with
  | directory entries => cases h
  | closed fault => cases h
  | file _ | broken _ =>
    rw [Node.found, if_pos (hasXmlExtension_iff.2 hname)]
    exact ⟨_, List.mem_singleton_self _, rfl⟩

/-- Names lead from a directory to itself, or by one of its entries. -/
theorem leads_directory_iff : (Node.directory entries).Leads names leaf ↔
    names = [] ∧ leaf = .directory entries ∨
      ∃ e ∈ entries, ∃ more, names = e.1 :: more ∧ e.2.Leads more leaf := by
  constructor
  · rintro (_ | ⟨hmem, hleads⟩)
    · exact .inl ⟨rfl, rfl⟩
    · exact .inr ⟨_, hmem, _, rfl, hleads⟩
  · rintro (⟨rfl, rfl⟩ | ⟨⟨name, child⟩, hmem, more, rfl, hleads⟩)
    · exact .here _
    · exact .entry hmem hleads

/-- Only directories lead further. -/
theorem leads_iff_of_isDirectory_eq_false (h : node.isDirectory = false) :
    node.Leads names leaf ↔ names = [] ∧ leaf = node := by
  constructor
  · rintro (_ | _)
    · exact ⟨rfl, rfl⟩
    · cases h
  · rintro ⟨rfl, rfl⟩
    exact .here _

/-- The files of a row of entries are those of its entries, one after the other. -/
theorem collectEntries_eq_ok_iff : collectEntries p entries = .ok files ↔
    ∃ parts, List.Forall₂ (fun e fs => e.2.collect (p.join e.1) e.1 = .ok fs) entries parts ∧
      parts.flatten = files := by
  induction entries generalizing files with
  | nil => simp [collectEntries]
  | cons e entries ih =>
    obtain ⟨name, node⟩ := e
    rw [collectEntries]
    constructor
    · intro h
      cases hfirst : node.collect (p.join name) name with
      | error fault =>
        rw [hfirst] at h
        cases h
      | ok first =>
        cases hrest : collectEntries p entries with
        | error fault =>
          rw [hfirst, hrest] at h
          cases h
        | ok rest =>
          rw [hfirst, hrest] at h
          obtain ⟨parts, hparts, rfl⟩ := ih.1 hrest
          exact ⟨first :: parts, .cons hfirst hparts, Except.ok.inj h⟩
    · rintro ⟨parts, hparts, rfl⟩
      cases hparts with
      | @cons _ first _ parts hfirst hparts =>
        rw [hfirst, ih.2 ⟨parts, hparts, rfl⟩]
        rfl

/-- The files of an entry are those that are noted where rows of names lead, and so are the files of
    the entries of a directory. -/
theorem mem_collect_iff :
    (∀ (p : FilePath) (name : String) (node : Node) (files : List XmlFile),
      node.collect p name = .ok files → ∀ f, f ∈ files ↔ ∃ names leaf,
        node.Leads names leaf ∧ f ∈ leaf.found (p.descend names) (names.getLast?.getD name)) ∧
    ∀ (p : FilePath) (entries : List (String × Node)) (files : List XmlFile),
      collectEntries p entries = .ok files → ∀ f, f ∈ files ↔ ∃ e ∈ entries, ∃ names leaf,
        e.2.Leads names leaf ∧
          f ∈ leaf.found ((p.join e.1).descend names) (names.getLast?.getD e.1) := by
  have hleaf : ∀ (p : FilePath) (name : String) (node : Node), node.isDirectory = false →
      ∀ files, node.collect p name = .ok files → ∀ f, f ∈ files ↔ ∃ names leaf,
        node.Leads names leaf ∧ f ∈ leaf.found (p.descend names) (names.getLast?.getD name) := by
    intro p name node hnode files h f
    rw [collect_of_isDirectory_eq_false hnode, Except.ok.injEq] at h
    simp [leads_iff_of_isDirectory_eq_false hnode, ← h]
  -- On the tree, for entries and for lists of them at once.
  refine Node.collect.mutual_induct _ _ ?_ ?_ ?_ ?_ ?_ ?_
  case refine_1 =>
    intro p name entries ih files h f
    rw [Node.collect] at h
    rw [ih files h f]
    constructor
    · rintro ⟨e, he, names, leaf, hleads, hf⟩
      exact ⟨e.1 :: names, leaf, .entry he hleads, by rwa [List.getLast?_cons]⟩
    · rintro ⟨names, leaf, hleads, hf⟩
      rcases leads_directory_iff.1 hleads with ⟨rfl, rfl⟩ | ⟨e, he, more, rfl, hmore⟩
      · exact absurd hf List.not_mem_nil
      · exact ⟨e, he, more, leaf, hmore, by rwa [List.getLast?_cons] at hf⟩
  case refine_2 =>
    intro p name fault files h
    cases h
  case refine_3 =>
    intro p name file
    exact hleaf p name (.file file) rfl
  case refine_4 =>
    intro p name fault
    exact hleaf p name (.broken fault) rfl
  case refine_5 =>
    intro p files h f
    cases h
    simp
  case refine_6 =>
    intro p name node entries ihnode ihentries files h f
    obtain ⟨parts, hparts, rfl⟩ := collectEntries_eq_ok_iff.1 h
    cases hparts with
    | @cons _ first _ parts hfirst hparts =>
      have hrest := collectEntries_eq_ok_iff.2 ⟨parts, hparts, rfl⟩
      rw [List.flatten_cons, List.mem_append, ihnode first hfirst f,
        ihentries parts.flatten hrest f, List.exists_mem_cons_iff]

end

/-! ### Traversals -/

/-- What a traversal holds: the directories that are still to be read, and the files found. -/
structure Walk where
  stack : List (FilePath × Node)
  files : List XmlFile

namespace Walk

/-- The directories among entries, with their paths. -/
def subdirectories (p : FilePath) (entries : List (String × Node)) : List (FilePath × Node) :=
  (entries.filter fun e => e.2.isDirectory).map fun e => (p.join e.1, e.2)

/-- The files among entries. -/
def filesIn (p : FilePath) (entries : List (String × Node)) : List XmlFile :=
  entries.flatMap fun e => e.2.found (p.join e.1) e.1

/-- One round: the directory on top is read, and its entries come in any order. -/
inductive Round : Walk → Walk → Prop
  | read {p : FilePath} {entries order : List (String × Node)} {stack : List (FilePath × Node)}
      {files : List XmlFile} : order.Perm entries →
      Round ⟨(p, .directory entries) :: stack, files⟩
        ⟨(subdirectories p order).reverse ++ stack, files ++ filesIn p order⟩

/-! ### Rounds come to an end -/

end Walk

mutual

/-- The number of directories of a tree. -/
def Node.directories : Node → Nat
  | .directory entries => entriesDirectories entries + 1
  | .closed _ => 1
  | .file _ | .broken _ => 0

/-- The number of directories among entries and below them. -/
def entriesDirectories : List (String × Node) → Nat
  | [] => 0
  | (_, node) :: entries => node.directories + entriesDirectories entries

end

namespace Walk

variable {w w' : Walk} {p : FilePath} {entries : List (String × Node)} {all : List XmlFile}

/-- The number of directories that are still to be read. -/
def left (w : Walk) : Nat := (w.stack.map fun d => d.2.directories).sum

/-- All directories among entries and below them are in the directories that come on the stack. -/
theorem sum_directories_subdirectories (p : FilePath) (entries : List (String × Node)) :
    ((subdirectories p entries).map fun d => d.2.directories).sum = entriesDirectories entries := by
  induction entries with
  | nil => rfl
  | cons e entries ih =>
    obtain ⟨name, node⟩ := e
    cases node <;>
      simp_all [subdirectories, entriesDirectories, Node.isDirectory, Node.directories]

/-- The directories of entries are those of each entry. -/
theorem entriesDirectories_eq (entries : List (String × Node)) :
    entriesDirectories entries = (entries.map fun e => e.2.directories).sum := by
  induction entries with
  | nil => rfl
  | cons e entries ih =>
    obtain ⟨name, node⟩ := e
    rw [entriesDirectories, ih]
    rfl

/-- Every round leaves one directory less to be read. -/
theorem Round.left_eq (h : Round w w') : w.left = w'.left + 1 := by
  cases h with
  | @read p entries order stack files horder =>
    have hsum : entriesDirectories order = entriesDirectories entries := by
      rw [entriesDirectories_eq, entriesDirectories_eq]
      exact (horder.map _).sum_nat
    simp only [left, List.map_cons, List.sum_cons, Node.directories, List.map_append,
      List.map_reverse, List.sum_append_nat, List.sum_reverse]
    rw [sum_directories_subdirectories, hsum]
    omega

/-- Every round leaves fewer directories to read, so that a traversal ends. -/
theorem wellFounded_round : WellFounded fun w' w => Round w w' :=
  Subrelation.wf (fun {_ _} h => by
    show Walk.left _ < Walk.left _
    rw [h.left_eq]
    exact Nat.lt_succ_self _) (measure Walk.left).wf

/-! ### What is found stays the same -/

/-- The directory is read without an error and has the files. -/
def Reads (d : FilePath × Node) (files : List XmlFile) : Prop :=
  ∃ entries, d.2 = .directory entries ∧ collectEntries d.1 entries = .ok files

/-- What is noted and what is below the directories on the stack are the files, in some order. -/
def Inv (all : List XmlFile) (w : Walk) : Prop :=
  ∃ parts, List.Forall₂ Reads w.stack parts ∧ (w.files ++ parts.flatten).Perm all

/-- The files of entries are those noted at once and those of the subdirectories. -/
theorem exists_reads_subdirectories {parts : List (List XmlFile)}
    (h : List.Forall₂ (fun e fs => e.2.collect (p.join e.1) e.1 = .ok fs) entries parts) :
    ∃ inner, List.Forall₂ Reads (subdirectories p entries) inner ∧
      parts.flatten.Perm (filesIn p entries ++ inner.flatten) := by
  induction h with
  | nil => exact ⟨[], .nil, .nil⟩
  | @cons e fs entries parts hfs _ ih =>
    obtain ⟨inner, hinner, hperm⟩ := ih
    obtain ⟨name, node⟩ := e
    -- An entry is a directory that is read later, or adds its own file now.
    cases hdirectory : node.isDirectory with
    | false =>
      have hfound : fs = node.found (p.join name) name := by
        rw [collect_of_isDirectory_eq_false hdirectory] at hfs
        exact (Except.ok.inj hfs).symm
      refine ⟨inner, by simpa [subdirectories, hdirectory] using hinner, ?_⟩
      rw [List.flatten_cons, filesIn, List.flatMap_cons, ← hfound, List.append_assoc]
      exact hperm.append_left fs
    | true =>
      have hnone : node.found (p.join name) name = [] := by
        cases node <;> first | rfl | cases hdirectory
      have hreads : Reads (p.join name, node) fs := by
        cases node with
        | directory inside =>
          rw [Node.collect] at hfs
          exact ⟨inside, rfl, hfs⟩
        | closed fault => cases hfs
        | file f => cases hdirectory
        | broken fault => cases hdirectory
      have hcons : subdirectories p ((name, node) :: entries) =
          (p.join name, node) :: subdirectories p entries := by
        simp [subdirectories, hdirectory]
      refine ⟨fs :: inner, hcons ▸ .cons hreads hinner, ?_⟩
      rw [List.flatten_cons, List.flatten_cons, filesIn, List.flatMap_cons, hnone, List.nil_append]
      exact (hperm.append_left fs).trans (List.perm_append_comm_assoc _ _ _)

/-- A round keeps the files, whatever the order of the entries is. -/
theorem Inv.next (h : Inv all w) (hround : Round w w') : Inv all w' := by
  cases hround with
  | @read p entries order stack files horder =>
    obtain ⟨parts, hparts, hall⟩ := h
    cases hparts with
    | @cons _ fs _ parts hfs hparts =>
      obtain ⟨_, hentries, hcollect⟩ := hfs
      cases hentries
      obtain ⟨pieces, hpieces, rfl⟩ := collectEntries_eq_ok_iff.1 hcollect
      obtain ⟨pieces', hpieces', hperm⟩ := List.perm_comp_forall₂ horder hpieces
      -- The directory is replaced on the stack by its subdirectories, the last one on top.
      obtain ⟨inner, hinner, hsplit⟩ := exists_reads_subdirectories hpieces'
      refine ⟨inner.reverse ++ parts, List.rel_append (List.rel_reverse hinner) hparts, ?_⟩
      refine List.Perm.trans ?_ hall
      have hread : (filesIn p order ++ inner.reverse.flatten).Perm pieces.flatten :=
        calc
          (filesIn p order ++ inner.reverse.flatten).Perm (filesIn p order ++ inner.flatten) :=
            (List.reverse_perm inner).flatten.append_left _
          List.Perm _ pieces'.flatten := hsplit.symm
          List.Perm _ pieces.flatten := hperm.flatten
      simpa only [List.flatten_append, List.flatten_cons, List.append_assoc] using
        ((hread.append_right parts.flatten).append_left files)

/-- Where a directory is on the stack, there is a next round. -/
theorem Inv.exists_round (h : Inv all w) (hstack : w.stack ≠ []) : ∃ w', Round w w' := by
  obtain ⟨parts, hparts, -⟩ := h
  obtain ⟨stack, files⟩ := w
  cases hparts with
  | nil => exact absurd rfl hstack
  | @cons d fs stack parts hfs _ =>
    obtain ⟨p, node⟩ := d
    obtain ⟨entries, hnode, -⟩ := hfs
    have hnode' : node = .directory entries := hnode
    subst hnode'
    exact ⟨_, .read (List.Perm.refl entries)⟩

/-- When no directory is left, the files that were noted are all files. -/
theorem Inv.perm (h : Inv all w) (hstack : w.stack = []) : w.files.Perm all := by
  obtain ⟨parts, hparts, hperm⟩ := h
  rw [hstack] at hparts
  cases hparts
  simpa using hperm

end Walk

/-! ### Listings -/

section

variable {node leaf : Node} {p : FilePath} {names : List String}
  {entries : List (String × Node)} {files : List XmlFile}

/-- Every entry of a well named directory has a proper name and is well named. -/
theorem wellNamed_of_mem (hw : EntriesWellNamed entries) {name : String} {child : Node}
    (h : (name, child) ∈ entries) : IsEntryName name ∧ child.WellNamed := by
  induction entries with
  | nil => exact absurd h List.not_mem_nil
  | cons e entries ih =>
    obtain ⟨⟨hname, -⟩, hnode, hentries⟩ := hw
    rcases List.mem_cons.1 h with rfl | h
    · exact ⟨hname, hnode⟩
    · exact ih hentries h

/-- The names of a row that leads somewhere are the last parts of the path that it leads to. -/
theorem Node.Leads.parts_descend (h : node.Leads names leaf) (hw : node.WellNamed)
    (hp : p.text ≠ "") : (p.descend names).parts = p.parts ++ names.map .name := by
  induction h generalizing p with
  | here node => simp
  | @entry entries name child leaf names hmem hleads ih =>
    obtain ⟨hname, hchild⟩ := wellNamed_of_mem hw hmem
    rw [FilePath.descend_cons, ih hchild (FilePath.join_text_ne_empty name hp),
      FilePath.parts_join hp hname, List.append_assoc]
    rfl

/-- The files of a directory are those that rows of names lead to. -/
theorem exists_mem_path_iff (h : collectEntries p entries = .ok files) {path : FilePath} :
    (∃ f ∈ files, f.path = path) ↔
      ∃ names, (Node.directory entries).LeadsToXml names ∧ path = p.descend names := by
  have hmem := mem_collect_iff.2 p entries files h
  constructor
  · rintro ⟨f, hf, rfl⟩
    obtain ⟨e, he, names, leaf, hleads, hfound⟩ := (hmem f).1 hf
    obtain ⟨hleaf, hname, hpath⟩ := of_mem_found hfound
    exact ⟨e.1 :: names, ⟨leaf, .entry he hleads, hleaf, _, List.getLast?_cons, hname⟩, hpath⟩
  · rintro ⟨names, ⟨leaf, hleads, hleaf, name, hlast, hname⟩, rfl⟩
    rcases leads_directory_iff.1 hleads with ⟨rfl, rfl⟩ | ⟨e, he, more, rfl, hmore⟩
    · cases hleaf
    · obtain rfl : more.getLast?.getD e.1 = name := by
        rw [List.getLast?_cons] at hlast
        exact Option.some.inj hlast
      obtain ⟨f, hf, hpath⟩ := exists_mem_found ((p.join e.1).descend more) hleaf hname
      exact ⟨f, (hmem f).2 ⟨e, he, more, leaf, hmore, hf⟩, hpath⟩

/-- Sorted files, no two at one place, that have the paths of some rows of names, have those of
    these rows in their order. -/
theorem exists_rows (hw : node.WellNamed) (hp : p.text ≠ "")
    (hsorted : files.Pairwise fun f g => Location.le f.location g.location = true)
    (hnodup : (files.map XmlFile.location).Nodup)
    (hpaths : ∀ path, (∃ f ∈ files, f.path = path) ↔
      ∃ names, node.LeadsToXml names ∧ path = p.descend names) :
    ∃ rows : List (List String), files.map XmlFile.path = rows.map p.descend ∧
      (∀ names, names ∈ rows ↔ node.LeadsToXml names) ∧ rows.Pairwise RowLt := by
  have hrow : ∀ f ∈ files, ∃ names, node.LeadsToXml names ∧ f.path = p.descend names :=
    fun f hf => (hpaths f.path).1 ⟨f, hf, rfl⟩
  choose! row hrows hpath using hrow
  have hparts : ∀ names, node.LeadsToXml names →
      (p.descend names).parts = p.parts ++ names.map .name := by
    rintro names ⟨leaf, hleads, -⟩
    exact hleads.parts_descend hw hp
  have hlocation : ∀ f ∈ files, f.location = p.parts ++ (row f).map .name := fun f hf => by
    rw [XmlFile.location, hpath f hf, hparts _ (hrows f hf)]
  refine ⟨files.map row, ?_, fun names => ⟨fun hnames => ?_, fun hnames => ?_⟩, ?_⟩
  · rw [List.map_map]
    exact List.map_congr_left hpath
  · obtain ⟨f, hf, rfl⟩ := List.mem_map.1 hnames
    exact hrows f hf
  · -- The path tells the row.
    obtain ⟨f, hf, hfpath⟩ := (hpaths _).2 ⟨names, hnames, rfl⟩
    have hsame : p.parts ++ (row f).map Part.name = p.parts ++ names.map .name := by
      rw [← hlocation f hf, XmlFile.location, hfpath, hparts names hnames]
    have hnames : row f = names :=
      (List.map_inj_right fun _ _ he => Part.name.inj he).1 (List.append_cancel_left hsame)
    exact hnames ▸ List.mem_map_of_mem hf
  · rw [List.Nodup, List.pairwise_map] at hnodup
    rw [List.pairwise_map]
    refine (hsorted.and hnodup).imp_of_mem fun {f g} hf hg hfg => ?_
    obtain ⟨hle, hne⟩ := hfg
    rw [hlocation f hf, hlocation g hg] at hle hne
    rw [Location.le_append_names, rowLt_iff, not_lt] at hle
    exact rowLt_iff.2 (lt_of_le_of_ne hle fun he => hne (by rw [he]))

/-- Files that were sorted are in the order of their locations. -/
theorem pairwise_mergeSort_location (files : List XmlFile) :
    (files.mergeSort fun f g => Location.le f.location g.location).Pairwise
      fun f g => Location.le f.location g.location = true := by
  refine List.pairwise_mergeSort ?_ ?_ files
  · exact fun _ _ _ => Location.le_trans
  · exact fun f g => Location.le_total f.location g.location

/-- Sorting forgets in which order files were found, if no two are at one place. -/
theorem mergeSort_eq_of_perm {files files' : List XmlFile}
    (hnodup : (files.map XmlFile.location).Nodup) (h : files'.Perm files) :
    files'.mergeSort (fun f g => Location.le f.location g.location) =
      files.mergeSort (fun f g => Location.le f.location g.location) := by
  refine List.Perm.eq_of_pairwise ?_ (pairwise_mergeSort_location files')
    (pairwise_mergeSort_location files)
    ((List.mergeSort_perm _ _).trans (h.trans (List.mergeSort_perm _ _).symm))
  intro f g hf hg hle hge
  rw [List.mem_mergeSort] at hf hg
  exact List.inj_on_of_nodup_map hnodup (h.mem_iff.1 hf) hg (Location.le_antisymm hle hge)

/-- Every traversal of a directory keeps its files. -/
theorem Walk.Inv.of_reflTransGen (h : collectEntries p entries = .ok files) {w : Walk}
    (hw : Relation.ReflTransGen Walk.Round ⟨[(p, .directory entries)], []⟩ w) :
    Walk.Inv files w := by
  induction hw with
  | refl => exact ⟨[files], .cons ⟨entries, rfl, h⟩ .nil, by simp⟩
  | tail _ hround ih => exact ih.next hround

end

/-- **A listing is complete, and no order of entries matters.** If a path leads to a directory, and
    it and all directories below it can be listed, the listing has the paths of the rows of names
    that lead to something other than a directory with the extension `xml`, each once and in the
    order of the names. A traversal comes to an end, however the entries of each directory are
    ordered, and what it has noted then are the listed files. -/
theorem Disk.xmlFiles_complete {d : Disk} {p : FilePath} {node : Node} (hd : d.WellNamed)
    (hfind : d.find p = .ok node) (hnode : node.isDirectory = true) (hlist : ¬ node.Unlistable) :
    WellFounded (fun w' w => Walk.Round w w') ∧
      ∃ (files : List XmlFile) (rows : List (List String)), d.xmlFiles p = .ok files ∧
        files.map XmlFile.path = rows.map p.descend ∧ (files.map XmlFile.path).Nodup ∧
        (∀ names, names ∈ rows ↔ node.LeadsToXml names) ∧ rows.Pairwise RowLt ∧
        ∀ w, Relation.ReflTransGen Walk.Round ⟨[(p, node)], []⟩ w →
          (w.stack = [] ∧
            w.files.mergeSort (fun f g => Location.le f.location g.location) = files) ∨
          ∃ w', Walk.Round w w' := by
  refine ⟨Walk.wellFounded_round, ?_⟩
  obtain ⟨hp, hw⟩ := Disk.wellNamed_of_find hd hfind
  cases node with
  | file f => cases hnode
  | broken fault => cases hnode
  | closed fault => exact absurd (.closed fault) hlist
  | directory entries =>
    cases hfound : collectEntries p entries with
    | error e =>
      exact absurd (unlistable_directory_iff.2
        ((exists_collect_error_iff.2 p entries).1 ⟨e, hfound⟩)) hlist
    | ok found =>
      let sorted := found.mergeSort fun f g => Location.le f.location g.location
      have hfiles : (Node.directory entries).xmlFiles p = .ok sorted := by
        rw [Node.xmlFiles, hfound]
        rfl
      have hperm : sorted.Perm found := List.mergeSort_perm _ _
      have hnodup : (sorted.map XmlFile.location).Nodup :=
        (Node.listed_of_xmlFiles hw hp hfiles).nodup
      have hpaths : ∀ path, (∃ f ∈ sorted, f.path = path) ↔
          ∃ names, (Node.directory entries).LeadsToXml names ∧ path = p.descend names := by
        intro path
        rw [← exists_mem_path_iff hfound]
        simp only [hperm.mem_iff]
      obtain ⟨rows, hrows, hmem, horder⟩ :=
        exists_rows hw hp (pairwise_mergeSort_location found) hnodup hpaths
      refine ⟨sorted, rows, ?_, hrows, ?_, hmem, horder, fun w hreach => ?_⟩
      · rw [Disk.xmlFiles, hfind]
        exact hfiles
      · refine List.Nodup.of_map FilePath.parts ?_
        rwa [List.map_map]
      · have hinv := Walk.Inv.of_reflTransGen hfound hreach
        -- A walk that cannot go on has found every file, in some order.
        by_cases hstack : w.stack = []
        · have hnodup' := (hperm.map XmlFile.location).nodup_iff.1 hnodup
          exact .inl ⟨hstack, mergeSort_eq_of_perm hnodup' (hinv.perm hstack)⟩
        · exact .inr (hinv.exists_round hstack)

/-- A file without text. -/
def emptyFile : Node := .file ⟨⟨none, 0⟩, .ok ""⟩

/-- A directory whose name has the extension, with a file in it; a file with nothing before the
    extension, and a link to nothing. -/
def mixedTree : Node := .directory
  [("d.xml", .directory [("B.XML", emptyFile)]), (".xml", emptyFile), ("a.xml", .broken .notFound)]

/-- A disk with these entries in its working directory. -/
def mixedDisk : Disk := { working := mixedTree }

/-- Every directory of the tree can be listed. -/
theorem not_unlistable_mixedTree : ¬ mixedTree.Unlistable := by
  have hleaf : ∀ node : Node, node.isDirectory = false → ¬ node.Unlistable := by
    rintro _ h (_ | _) <;> cases h
  have hinner : ¬ (Node.directory [("B.XML", emptyFile)]).Unlistable := by
    rw [unlistable_directory_iff]
    rintro ⟨e, he, h⟩
    cases List.mem_singleton.1 he
    exact hleaf _ rfl h
  rw [mixedTree, unlistable_directory_iff]
  rintro ⟨e, he, h⟩
  simp only [List.mem_cons, List.not_mem_nil, or_false] at he
  rcases he with rfl | rfl | rfl
  · exact hinner h
  · exact hleaf _ rfl h
  · exact hleaf _ rfl h

/-- The disk has proper names only. -/
theorem wellNamed_mixedDisk : mixedDisk.WellNamed := by
  have hnames : ∀ name ∈ ["d.xml", ".xml", "a.xml", "B.XML"], IsEntryName name := by decide
  exact ⟨⟨⟨hnames _ (by decide), by decide⟩, ⟨⟨hnames _ (by decide), by decide⟩, trivial, trivial⟩,
    ⟨hnames _ (by decide), by decide⟩, trivial, ⟨hnames _ (by decide), by decide⟩, trivial,
    trivial⟩, trivial⟩

/-- The file in the directory is listed and so is the link, but neither the directory nor the file
    with nothing before the extension. -/
theorem Disk.xmlFiles_complete_mixed :
    mixedDisk.WellNamed ∧ mixedDisk.find ⟨"."⟩ = .ok mixedTree ∧
      mixedTree.isDirectory = true ∧ ¬ mixedTree.Unlistable ∧
      ∃ (files : List XmlFile) (rows : List (List String)),
        mixedDisk.xmlFiles ⟨"."⟩ = .ok files ∧
        files.map XmlFile.path = rows.map (FilePath.mk ".").descend ∧
        ["d.xml", "B.XML"] ∈ rows ∧ ["a.xml"] ∈ rows ∧ ["d.xml"] ∉ rows ∧ [".xml"] ∉ rows := by
  have hfind : mixedDisk.find ⟨"."⟩ = .ok mixedTree := by
    rw [Disk.find, if_neg (by decide)]
    rfl
  have hname : ∀ name : String, hasXmlExtension name = true → IsXmlName name := fun name =>
    hasXmlExtension_iff.1
  obtain ⟨-, files, rows, hfiles, hpaths, -, hrows, -⟩ := Disk.xmlFiles_complete
    wellNamed_mixedDisk hfind rfl not_unlistable_mixedTree
  refine ⟨wellNamed_mixedDisk, hfind, rfl, not_unlistable_mixedTree, files, rows, hfiles, hpaths,
    (hrows _).2 ?_, (hrows _).2 ?_, fun h => ?_, fun h => ?_⟩
  · exact ⟨_, .entry List.mem_cons_self (.entry List.mem_cons_self (.here _)), rfl, "B.XML", rfl,
      hname _ (by decide)⟩
  · exact ⟨_, .entry (.tail _ (.tail _ (.head _))) (.here _), rfl, "a.xml", rfl,
      hname _ (by decide)⟩
  · -- The only entry of this name is a directory.
    obtain ⟨leaf, hleads, hleaf, -⟩ := (hrows _).1 h
    rcases leads_directory_iff.1 hleads with ⟨hnil, -⟩ | ⟨e, he, more, hcons, hmore⟩
    · cases hnil
    · obtain ⟨hname, rfl⟩ := List.cons.inj hcons
      simp only [List.mem_cons, List.not_mem_nil, or_false] at he
      rcases he with rfl | rfl | rfl
      · cases hmore
        cases hleaf
      · exact absurd hname (by decide)
      · exact absurd hname (by decide)
  · obtain ⟨leaf, -, -, name, hlast, hxml⟩ := (hrows _).1 h
    cases hlast
    exact absurd (hasXmlExtension_iff.2 hxml) (by decide)

end QueryBook.Files
