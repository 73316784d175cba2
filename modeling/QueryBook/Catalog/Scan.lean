import QueryBook.Catalog.Basic
import QueryBook.Xml.Document

namespace QueryBook

open Files (Disk Location FilePath Signature XmlFile)

/-!
# Scanning the directory

A scan reads the files that are new or look different, and then brings the catalog up to date in one
step: first the files that are gone, then those that were read, in the order of their paths. If two
files define one key, the one that was read last has it. When a file gives up a key, the others that
define it lose their freshness, so that the next scan reads them again.

* `Survey`, `survey` — what reading the files gives.
* `Catalog.releaseFile`, `Catalog.installFile` — giving up the keys of a file, and taking new ones.
* `Catalog.scan`, `Catalog.reload`, `Catalog.lookup` — a scan; one on demand; one when a key is
  missing.
-/

/-- The templates that a file defines. -/
def loadFile (file : XmlFile) (defaultConnection : String) : Except LoadFault (List Template) :=
  match file.text with
  | .error fault => .error (.file fault)
  | .ok text =>
    match Xml.parseDocument text with
    | .error fault => .error (.document fault)
    | .ok definitions =>
      .ok (definitions.map fun d => Template.ofDefinition d defaultConnection (some file.path))

/-! ### Reading the files -/

/-- What reading the files has given so far. -/
structure Survey where
  freshness : Freshness
  skipped : Nat := 0
  /-- The files that were read, with their templates. -/
  loaded : List (FilePath × List Template) := []
  failures : List Failure := []

/-- Reads one file, unless it looks as it did when it was loaded. -/
def Survey.take (defaultConnection : String) (s : Survey) (file : XmlFile) : Survey :=
  match file.signature with
  | .error fault => { s with failures := s.failures ++ [⟨file.path, .file fault⟩] }
  | .ok signature =>
    if s.freshness.isLatest file.location signature then { s with skipped := s.skipped + 1 }
    else
      match loadFile file defaultConnection with
      | .ok templates =>
        { s with
          freshness := s.freshness.record file.location signature
          loaded := s.loaded ++ [(file.path, templates)] }
      -- What fails is forgotten, so that every scan tries it again.
      | .error fault =>
        { s with
          freshness := s.freshness.forget file.location
          failures := s.failures ++ [⟨file.path, fault⟩] }

/-- Reads the files of a listing. -/
def survey (c : Catalog) (files : List XmlFile) : Survey :=
  files.foldl (Survey.take c.defaultConnection) { freshness := c.freshness }

/-! ### Bringing the catalog up to date -/

namespace Catalog

/-- Whether the template of a key was read from a file. -/
def owns (c : Catalog) (file : Location) (key : String) : Bool :=
  (c.templates.get? key).any fun loaded => loaded.template.location? == some file

/-- Forgets the freshness of the other files that define a key. -/
def releaseShadowed (c : Catalog) (file : Location) (key : String) : Catalog :=
  let others := c.fileKeys.entries.filter fun e => e.1 != file && e.2.contains key
  { c with freshness := others.foldl (fun f e => f.forget e.1) c.freshness }

/-- Gives up a key, if the file has it. -/
def releaseKey (file : Location) (c : Catalog) (key : String) : Catalog :=
  if c.owns file key then
    { c with templates := c.templates.erase key }.releaseShadowed file key
  else c

/-- Gives up all keys of a file. -/
def releaseFile (c : Catalog) (file : Location) : Catalog :=
  match c.fileKeys.get? file with
  | none => c
  | some keys => keys.foldl (releaseKey file) { c with fileKeys := c.fileKeys.erase file }

/-- Gives up a file that is gone. -/
def dropFile (c : Catalog) (file : Location) : Catalog :=
  { c with freshness := c.freshness.forget file }.releaseFile file

/-- Takes a template. -/
def install (c : Catalog) (t : Template) : Catalog :=
  { c with
    templates := c.templates.insert t.key ⟨c.nextSerial, t⟩
    nextSerial := c.nextSerial + 1 }

/-- Takes the templates of a file in the place of those that it gave before. -/
def installFile (c : Catalog) (path : FilePath) (templates : List Template) : Catalog :=
  let installed := templates.foldl install (c.releaseFile path.parts)
  { installed with fileKeys := installed.fileKeys.insert path.parts (templates.map Template.key) }

/-- The files with keys that a listing does not hold any more. -/
def vanished (c : Catalog) (files : List XmlFile) : List Location :=
  c.fileKeys.keys.filter fun file => !(files.map XmlFile.location).contains file

/-- The catalog after the files of a listing were read. -/
def update (c : Catalog) (files : List XmlFile) (s : Survey) : Catalog :=
  -- What was read is fresh from here on, unless a file below gives up a key that it defines.
  let kept := (c.vanished files).foldl dropFile { c with freshness := s.freshness }
  let filled := s.loaded.foldl (fun c (path, templates) => c.installFile path templates) kept
  { filled with
    failures := s.failures
    parsed := filled.parsed + s.loaded.length
    skipped := filled.skipped + s.skipped }

end Catalog

/-- What a scan did. -/
structure ScanReport where
  parsed : Nat
  skipped : Nat
  failures : List Failure

namespace Catalog

/-- Scans a listing. One that failed changes nothing but the number of scans. -/
def scan (c : Catalog) (listing : Except (FilePath × Files.Fault) (List XmlFile)) :
    Except Error ScanReport × Catalog :=
  let c := { c with scans := c.scans + 1 }
  match listing with
  | .error (path, fault) => (.error (.loadFailed path.text (.file fault)), c)
  | .ok files =>
    let s := survey c files
    (.ok ⟨s.loaded.length, s.skipped, s.failures⟩, c.update files s)

/-- Scans the directory now. -/
def reload (c : Catalog) (disk : Disk) : Except Error ScanReport × Catalog :=
  c.scan (disk.xmlFiles c.root)

/-- The template of a key; if it is not loaded, after a scan. -/
def lookup (c : Catalog) (disk : Disk) (key : String) : Except Error Loaded × Catalog :=
  match c.find? key with
  | some loaded => (.ok loaded, c)
  | none =>
    match c.reload disk with
    | (.error e, c) => (.error e, c)
    | (.ok _, c) =>
      match c.find? key with
      | some loaded => (.ok loaded, c)
      | none => (.error (.templateNotFound key), c)

/-- A loaded key is found without a scan. -/
theorem lookup_of_find? {c : Catalog} {key : String} {loaded : Loaded} (disk : Disk)
    (h : c.find? key = some loaded) : c.lookup disk key = (.ok loaded, c) := by
  simp [lookup, h]

end Catalog

end QueryBook
