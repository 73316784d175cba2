import QueryBook.Files.Disk

namespace QueryBook.Files

/-!
# The places of listed files

A directory has at most one entry of a name, and no name of an entry is empty, holds a slash or is
one of the two that stand for a directory itself. Then every file of a listing has a place of its
own, and its path can be told from its place.

* `IsEntryName`, `Node.WellNamed`, `Disk.WellNamed` — what a file system promises of its names.
* `FilePath.descend`, `XmlFile.Below` — the path that a row of names leads to; a file found there.
* `Listed`, `Disk.listed_of_xmlFiles` — listed files lie below the directory that is listed, no two
  at one place.
* `XmlFile.Below.path_eq` — files at one place have one path.
-/

/-- A name that an entry of a directory can have. -/
def IsEntryName (name : String) : Prop :=
  name ≠ "" ∧ name ≠ "." ∧ name ≠ ".." ∧ '/' ∉ name.toList

instance (name : String) : Decidable (IsEntryName name) := inferInstanceAs (Decidable (_ ∧ _))

mutual

/-- In every directory of a tree the entries have proper names, each its own. -/
def Node.WellNamed : Node → Prop
  | .directory entries => EntriesWellNamed entries
  | .file _ | .broken _ | .closed _ => True

/-- The entries of a directory have proper names, each its own, and so have those below them. -/
def EntriesWellNamed : List (String × Node) → Prop
  | [] => True
  | (name, node) :: entries =>
    (IsEntryName name ∧ name ∉ entries.map Prod.fst) ∧ node.WellNamed ∧ EntriesWellNamed entries

end

/-- Both trees of a disk are well named. -/
structure Disk.WellNamed (d : Disk) : Prop where
  working : d.working.WellNamed
  root : d.root.WellNamed

/-! ### Paths below a path -/

namespace FilePath

/-- The path that a row of names leads to. -/
def descend (p : FilePath) (names : List String) : FilePath := names.foldl join p

@[simp] theorem descend_nil (p : FilePath) : p.descend [] = p := rfl

@[simp] theorem descend_cons (p : FilePath) (name : String) (names : List String) :
    p.descend (name :: names) = (p.join name).descend names := rfl

/-- A proper name is a part of a path by itself. -/
theorem part?_of_isEntryName {name : String} (h : IsEntryName name) :
    part? name.toList = some (.name name) := by
  obtain ⟨hempty, hdot, hdots, -⟩ := h
  have h₁ : ¬ (name.toList = [] ∨ name.toList = ['.']) := by
    rintro (he | he)
    · exact hempty (String.toList_inj.1 (by rw [he, String.toList_empty]))
    · exact hdot (String.toList_inj.1 he)
  have h₂ : name.toList ≠ ['.', '.'] := fun he => hdots (String.toList_inj.1 he)
  rw [part?, if_neg h₁, if_neg h₂, String.ofList_toList]

/-- The parts of a text in front of a slash, and those behind it. -/
theorem parts_of_append_slash {p : FilePath} {cs ds : List Char}
    (h : p.text.toList = cs ++ '/' :: ds) :
    p.parts = (⟨String.ofList (cs ++ ['/'])⟩ : FilePath).parts ++
      (Text.splitChar '/' ds).filterMap part? := by
  have hhead : (cs ++ '/' :: ds).head? = (cs ++ ['/']).head? := by cases cs <;> rfl
  have hfirst : (Text.splitChar '/' cs ++ Text.splitChar '/' ds).head? =
      (Text.splitChar '/' cs ++ Text.splitChar '/' []).head? := by
    cases hcs : Text.splitChar '/' cs with
    | nil => exact absurd hcs (Text.splitChar_ne_nil '/' cs)
    | cons part parts => rfl
  have hnil : (Text.splitChar '/' []).filterMap part? = [] := rfl
  simp only [parts, h, String.toList_ofList, Text.splitChar_append_cons, hhead, hfirst,
    List.filterMap_append, hnil, List.append_nil, List.append_assoc]

/-- A slash at the end of a path that is not empty adds no part. -/
theorem parts_append_slash {cs : List Char} (h : cs ≠ []) :
    (⟨String.ofList (cs ++ ['/'])⟩ : FilePath).parts = (⟨String.ofList cs⟩ : FilePath).parts := by
  have hhead : (cs ++ ['/']).head? = cs.head? := by
    cases cs with
    | nil => exact absurd rfl h
    | cons c cs => rfl
  have hfirst : (Text.splitChar '/' cs ++ [[]]).head? = (Text.splitChar '/' cs).head? := by
    cases hcs : Text.splitChar '/' cs with
    | nil => exact absurd hcs (Text.splitChar_ne_nil '/' cs)
    | cons part parts => rfl
  have hnil : ([[]] : List (List Char)).filterMap part? = [] := rfl
  simp only [parts, String.toList_ofList, Text.splitChar_append_cons, Text.splitChar, hhead, hfirst,
    List.filterMap_append, hnil, List.append_nil]

/-- A path that was joined is not empty. -/
theorem join_text_ne_empty {p : FilePath} (name : String) (hp : p.text ≠ "") :
    (p.join name).text ≠ "" := by
  have happend : ∃ s, (p.join name).text = p.text ++ s := by
    by_cases h : p.text.toList.getLast? = none ∨ p.text.toList.getLast? = some '/'
    · exact ⟨name, by rw [join, if_pos h]⟩
    · exact ⟨"/" ++ name, by rw [join, if_neg h, String.append_assoc]⟩
  obtain ⟨s, hs⟩ := happend
  intro he
  have hnil : p.text.toList ++ s.toList = [] := by
    rw [← String.toList_append, ← hs, he, String.toList_empty]
  exact hp (String.toList_inj.1 ((List.append_eq_nil_iff.1 hnil).1.trans String.toList_empty.symm))

/-- The name of an entry is the last part of its path. -/
theorem parts_join {p : FilePath} {name : String} (hp : p.text ≠ "") (hn : IsEntryName name) :
    (p.join name).parts = p.parts ++ [.name name] := by
  have hpieces : (Text.splitChar '/' name.toList).filterMap part? = [.name name] := by
    rw [Text.splitChar_of_not_mem hn.2.2.2, List.filterMap_cons, part?_of_isEntryName hn]
    rfl
  have hne : p.text.toList ≠ [] := fun he =>
    hp (String.toList_inj.1 (by rw [he, String.toList_empty]))
  -- A slash is put between the two texts unless the path ends in one.
  by_cases hlast : p.text.toList.getLast? = some '/'
  · obtain ⟨cs, hcs⟩ := List.getLast?_eq_some_iff.1 hlast
    have hjoin : (p.join name).text.toList = cs ++ '/' :: name.toList := by
      simp [join, hcs]
    have hp' : (⟨String.ofList (cs ++ ['/'])⟩ : FilePath) = p := by
      rw [← hcs, String.ofList_toList]
    rw [parts_of_append_slash hjoin, hpieces, hp']
  · have hjoin : (p.join name).text.toList = p.text.toList ++ '/' :: name.toList := by
      have hnone : p.text.toList.getLast? ≠ none := fun he =>
        hne (List.getLast?_eq_none_iff.1 he)
      rw [join, if_neg (not_or.2 ⟨hnone, hlast⟩)]
      simp
    rw [parts_of_append_slash hjoin, hpieces, parts_append_slash hne, String.ofList_toList]

end FilePath

/-! ### Listings -/

/-- A file that a row of names leads to from a directory. -/
structure XmlFile.Below (p : FilePath) (names : List String) (f : XmlFile) : Prop where
  path : f.path = p.descend names
  location : f.location = p.parts ++ names.map Part.name

/-- Files below a directory, no two of them at one place. -/
structure Listed (p : FilePath) (files : List XmlFile) : Prop where
  below : ∀ f ∈ files, ∃ names, f.Below p names
  nodup : (files.map XmlFile.location).Nodup

/-- Files at one place have one path, whichever listings they are from. -/
theorem XmlFile.Below.path_eq {p : FilePath} {names names' : List String} {f g : XmlFile}
    (hf : f.Below p names) (hg : g.Below p names') (h : f.location = g.location) :
    f.path = g.path := by
  rw [hf.location, hg.location] at h
  have hnames : names = names' :=
    (List.map_inj_right fun _ _ he => Part.name.inj he).1 (List.append_cancel_left h)
  rw [hf.path, hg.path, hnames]

/-- What is below an entry of a directory is below the directory. -/
theorem XmlFile.Below.of_join {p : FilePath} {name : String} {names : List String} {f : XmlFile}
    (hp : p.text ≠ "") (hn : IsEntryName name) (h : f.Below (p.join name) names) :
    f.Below p (name :: names) where
  path := h.path
  location := by
    rw [h.location, FilePath.parts_join hp hn, List.append_assoc, List.map_cons]
    rfl

/-- One file that is listed or not, by itself, is a listing. -/
theorem listed_single {p : FilePath} {f : XmlFile} (hf : f.path = p) {b : Bool}
    {files : List XmlFile} (h : (if b then [f] else []) = files) : Listed p files := by
  subst h hf
  cases b with
  | false => exact ⟨by simp, by simp⟩
  | true =>
    refine ⟨fun g hg => ⟨[], ?_⟩, by simp⟩
    rw [if_pos rfl, List.mem_singleton] at hg
    subst hg
    exact ⟨rfl, by simp [XmlFile.location]⟩

/-- The files of an entry lie below it, those of a directory's entries below these, and no two files
    are at one place. -/
theorem below_of_collect :
    (∀ (p : FilePath) (name : String) (node : Node), node.WellNamed → p.text ≠ "" →
      ∀ files, node.collect p name = .ok files → Listed p files) ∧
    ∀ (p : FilePath) (entries : List (String × Node)), EntriesWellNamed entries → p.text ≠ "" →
      ∀ files, collectEntries p entries = .ok files →
        (∀ f ∈ files, ∃ name ∈ entries.map Prod.fst, ∃ names, f.Below p (name :: names)) ∧
          (files.map XmlFile.location).Nodup := by
  -- On the tree, for entries and for lists of them at once. What is said of a list names the
  -- entries, to tell the files of one from those of the others.
  refine Node.collect.mutual_induct _ _ ?_ ?_ ?_ ?_ ?_ ?_
  case refine_1 =>
    intro p name entries ih hw hp files h
    rw [Node.collect] at h
    obtain ⟨hbelow, hnodup⟩ := ih hw hp files h
    refine ⟨fun f hf => ?_, hnodup⟩
    obtain ⟨name, -, names, hb⟩ := hbelow f hf
    exact ⟨_, hb⟩
  case refine_2 =>
    intro p name fault _ _ files h
    rw [Node.collect] at h
    cases h
  case refine_3 =>
    intro p name f _ _ files h
    rw [Node.collect, Except.ok.injEq] at h
    exact listed_single rfl h
  case refine_4 =>
    intro p name fault _ _ files h
    rw [Node.collect, Except.ok.injEq] at h
    exact listed_single rfl h
  case refine_5 =>
    intro p _ _ files h
    rw [collectEntries, Except.ok.injEq] at h
    subst h
    simp
  case refine_6 =>
    intro p name node entries ihnode ihentries hw hp files h
    obtain ⟨⟨hname, hnew⟩, hnode, hentries⟩ := hw
    rw [collectEntries] at h
    cases hfirst : node.collect (p.join name) name with
    | error e => rw [hfirst] at h; cases h
    | ok first =>
      cases hrest : collectEntries p entries with
      | error e => rw [hfirst, hrest] at h; cases h
      | ok rest =>
        rw [hfirst, hrest] at h
        obtain rfl : first ++ rest = files := Except.ok.inj h
        obtain ⟨hb, hd⟩ := ihnode hnode (FilePath.join_text_ne_empty name hp) first hfirst
        obtain ⟨hb', hd'⟩ := ihentries hentries hp rest hrest
        have hfirst' : ∀ f ∈ first, ∃ names, f.Below p (name :: names) := fun f hf => by
          obtain ⟨names, hn⟩ := hb f hf
          exact ⟨names, hn.of_join hp hname⟩
        refine ⟨fun f hf => ?_, ?_⟩
        · rcases List.mem_append.1 hf with hf | hf
          · exact ⟨name, by simp, hfirst' f hf⟩
          · obtain ⟨name', hn', hnames⟩ := hb' f hf
            exact ⟨name', List.mem_cons_of_mem _ hn', hnames⟩
        · rw [List.map_append, List.nodup_append]
          refine ⟨hd, hd', ?_⟩
          -- Files of two entries differ in the name of the entry.
          intro l hl l' hl' he
          obtain ⟨f, hf, rfl⟩ := List.mem_map.1 hl
          obtain ⟨g, hg, rfl⟩ := List.mem_map.1 hl'
          obtain ⟨names, hfn⟩ := hfirst' f hf
          obtain ⟨name', hn', names', hgn⟩ := hb' g hg
          rw [hfn.location, hgn.location] at he
          have hcons := List.append_cancel_left he
          rw [List.map_cons, List.map_cons, List.cons.injEq, Part.name.injEq] at hcons
          exact hnew (hcons.1 ▸ hn')

/-- The listing of a tree has files below its path, each at a place of its own. -/
theorem Node.listed_of_xmlFiles {p : FilePath} {node : Node} (hw : node.WellNamed)
    (hp : p.text ≠ "") {files : List XmlFile} (h : node.xmlFiles p = .ok files) :
    Listed p files := by
  cases node with
  | directory entries =>
    rw [Node.xmlFiles] at h
    cases hc : collectEntries p entries with
    | error e => rw [hc] at h; cases h
    | ok found =>
      rw [hc] at h
      obtain rfl := Except.ok.inj h
      obtain ⟨hbelow, hnodup⟩ := below_of_collect.2 p entries hw hp found hc
      have hperm := List.mergeSort_perm found fun f g => Location.le f.location g.location
      refine ⟨fun f hf => ?_, (hperm.map XmlFile.location).nodup_iff.2 hnodup⟩
      obtain ⟨name, -, names, hb⟩ := hbelow f (hperm.mem_iff.1 hf)
      exact ⟨_, hb⟩
  | file f => cases h
  | broken fault => cases h
  | closed fault => cases h

/-- An entry of a well named directory is well named. -/
theorem wellNamed_of_find? {name : String} {entries : List (String × Node)} {node : Node}
    (hw : EntriesWellNamed entries) (h : Node.find? name entries = some node) :
    node.WellNamed := by
  induction entries with
  | nil => cases h
  | cons e entries ih =>
    obtain ⟨-, hnode, hentries⟩ := hw
    rw [Node.find?] at h
    split at h
    · exact Option.some.inj h ▸ hnode
    · exact ih hentries h

/-- What a path leads to in a well-named tree is well named. -/
theorem wellNamed_of_follow {root here node : Node} {above : List Node} {parts : Location}
    (hroot : root.WellNamed) (habove : ∀ n ∈ above, n.WellNamed) (hhere : here.WellNamed)
    (h : follow root above here parts = .ok node) : node.WellNamed := by
  induction parts generalizing above here with
  | nil =>
    rw [follow] at h
    exact Except.ok.inj h ▸ hhere
  | cons part parts ih =>
    cases part with
    | root => exact ih (by simp) hroot h
    | current => exact ih habove hhere h
    | parent =>
      -- Back to where the path came from, which is well named as it was passed before.
      unfold follow at h
      split at h
      · cases above with
        | nil => exact ih (by simp) hhere h
        | cons up above =>
          exact ih (fun n hn => habove n (List.mem_cons_of_mem up hn))
            (habove up List.mem_cons_self) h
      · cases h
    | name s =>
      cases here with
      | directory entries =>
        rw [follow] at h
        cases hf : Node.find? s entries with
        | none => rw [hf] at h; cases h
        | some n =>
          rw [hf] at h
          exact ih (fun m hm => (List.mem_cons.1 hm).elim (fun he => he ▸ hhere) (habove m))
            (wellNamed_of_find? hhere hf) h
      | file f => cases h
      | broken fault => cases h
      | closed fault => cases h

/-- Only a path that is not empty leads somewhere, and on a well-named disk it leads to what is well
    named. -/
theorem Disk.wellNamed_of_find {d : Disk} {p : FilePath} {node : Node} (hd : d.WellNamed)
    (h : d.find p = .ok node) : p.text ≠ "" ∧ node.WellNamed := by
  unfold Disk.find at h
  by_cases hp : p.text.isEmpty
  · rw [if_pos hp] at h
    cases h
  · rw [if_neg hp] at h
    exact ⟨fun he => hp (String.isEmpty_iff.2 he),
      wellNamed_of_follow hd.root (by simp) hd.working h⟩

/-- Every listed file lies below the directory that is listed, and no two are at one place. -/
theorem Disk.listed_of_xmlFiles {d : Disk} {p : FilePath} {files : List XmlFile}
    (hd : d.WellNamed) (h : d.xmlFiles p = .ok files) : Listed p files := by
  unfold Disk.xmlFiles at h
  cases hfind : d.find p with
  | error fault => rw [hfind] at h; cases h
  | ok node =>
    rw [hfind] at h
    obtain ⟨hp, hw⟩ := Disk.wellNamed_of_find hd hfind
    exact Node.listed_of_xmlFiles hw hp h

end QueryBook.Files
