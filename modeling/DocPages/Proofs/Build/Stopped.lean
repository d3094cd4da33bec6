import DocPages.Proofs.Build.Again
/-! # Builds that stop while they write

A build that has its document makes directories, writes the document and then the data file, and each of
these may fail.  If the file of the document has not been opened by then, no file is changed
(`stop_of_unopened`).  Opening it empties it: if the document is not finished, a beginning of it is there
(`stop_of_opened`).  If the build stops after that, the whole document is there and the data file is as
it was or begun (`stop_of_documented`). -/
set_option autoImplicit false
namespace DocPages

namespace PageBuild
open FileSystem (Frame)

section Stops
variable {ε : Type} {w : Platform ε} {b : PageBuild} {html : String} {files first after : FileSystem}
variable {e : ε}

def Opened (w : Platform ε) (b : PageBuild) (files : FileSystem) : Prop :=
  ∃ made, w.makeDirectories b.outputPath.parent files = (.ok (), made) ∧
    ∃ loc opened, w.openFile b.outputPath made = (.ok loc, opened)

def DataOpened (w : Platform ε) (b : PageBuild) (first : FileSystem) : Prop :=
  w.refusesData b.page.descriptor.toData = none ∧
    ∃ loc opened, w.openFile (b.dataPath b.outputPath.parent) first = (.ok loc, opened)

/-- Why no data file is opened where the document lies: the payload has no text, the platform refuses the
file, the key gives no name of a file, the name or the path is too long, or a directory has it. -/
inductive Unusable (w : Platform ε) (b : PageBuild) (files : FileSystem) : Prop
  | payload (refused : w.refusesData b.page.descriptor.toData ≠ none)
  | file (refused : w.refusesFile files (b.dataPath b.outputPath.parent) ≠ none)
  | slash (inside : '/' ∈ b.page.key.toList)
  | zero (inside : '\x00' ∈ b.page.key.toList)
  | longName (long : FileSystem.maxNameBytes < b.dataName.utf8ByteSize)
  | longPath
      (long : FileSystem.maxPathBytes < (b.dataPath b.outputPath.parent).toString.utf8ByteSize)
  | directory (there : files.isDirectory (b.dataPath b.outputPath.parent) = true)

theorem Documented.unique {first' : FileSystem} (documented : Documented w b html files first)
    (documented' : Documented w b html files first') : first' = first := by
  obtain ⟨made, directories, document⟩ := documented
  obtain ⟨made', directories', document'⟩ := documented'
  rw [directories] at directories'
  cases directories'
  rw [document] at document'
  cases document'
  rfl

theorem Documented.frame (documented : Documented w b html files first) :
    Frame [b.outputPath.location files.working] files first ∧
      first.read b.outputPath = .ok html.toUTF8 ∧
      first.isDirectory b.outputPath.parent = true := by
  obtain ⟨made, directories, document⟩ := documented
  have frame := FileSystem.frame_of_makeDirectories directories
  have placed := Device.withFile_of_writeFile document
  have written := Frame.withFile placed
  rw [frame.working] at written
  exact ⟨frame.trans written, FileSystem.read_withFile placed,
    FileSystem.isDirectory_of_frame written (FileSystem.isDirectory_of_makeDirectories directories)⟩

theorem opened_of_documented (documented : Documented w b html files first) : Opened w b files := by
  obtain ⟨made, directories, document⟩ := documented
  rcases w.writeFile_cases b.outputPath html made with ⟨e, _, ran⟩ | ⟨loc, _, opened, _⟩
  · rw [document] at ran
    cases ran
  · exact ⟨made, directories, loc, _, opened⟩

theorem stop_of_unopened (stop : Stop w b html files e after) (unopened : ¬Opened w b files) :
    Frame [] files after := by
  cases stop with
  | directories failed => exact FileSystem.frame_of_makeDirectories failed
  | document directories failed =>
    rw [Device.eq_of_unopened failed fun opened => unopened ⟨_, directories, opened⟩]
    exact FileSystem.frame_of_makeDirectories directories
  | payload documented _ => exact absurd (opened_of_documented documented) unopened
  | data documented _ _ => exact absurd (opened_of_documented documented) unopened

theorem stop_of_opened (stop : Stop w b html files e after) (opened : Opened w b files)
    (undocumented : ∀ first, ¬Documented w b html files first) :
    Frame [b.outputPath.location files.working] files after ∧
      ∃ n, after.read b.outputPath = .ok (html.toUTF8.extract 0 n) := by
  obtain ⟨made, directories, opened⟩ := opened
  cases stop with
  | directories failed =>
    rw [directories] at failed
    cases failed
  | document directories' failed =>
    rw [directories] at directories'
    cases directories'
    have frame := FileSystem.frame_of_makeDirectories directories
    obtain ⟨written, part⟩ := Device.part_of_opened failed opened
    rw [frame.working] at written
    exact ⟨frame.trans written, part⟩
  | payload documented _ => exact absurd documented (undocumented _)
  | data documented _ _ => exact absurd documented (undocumented _)

theorem toList_dataName_zero (clean : '\x00' ∉ b.page.key.toList) : '\x00' ∉ b.dataName.toList := by
  rw [toList_dataName]
  simp [clean]

theorem unusable_of_unopened (there : first.isDirectory b.outputPath.parent = true)
    (unopened : ¬DataOpened w b first) : Unusable w b first := by
  cases payload : w.refusesData b.page.descriptor.toData with
  | some e => exact .payload (by simp [payload])
  | none =>
  cases file : w.refusesFile first (b.dataPath b.outputPath.parent) with
  | some e => exact .file (by simp [file])
  | none =>
  by_cases slash : '/' ∈ b.page.key.toList
  · exact .slash slash
  by_cases zero : '\x00' ∈ b.page.key.toList
  · exact .zero zero
  by_cases longName : FileSystem.maxNameBytes < b.dataName.utf8ByteSize
  · exact .longName longName
  by_cases longPath :
      FileSystem.maxPathBytes < (b.dataPath b.outputPath.parent).toString.utf8ByteSize
  · exact .longPath longPath
  obtain ⟨loc, located, directory⟩ := FileSystem.isDirectory_iff.1 there
  have relative := root_ofString_dataName b
  have root : (b.dataPath b.outputPath.parent).root = b.outputPath.parent.root :=
    Path.root_join relative
  have names : (b.dataPath b.outputPath.parent).names = b.outputPath.parent.names ++ [b.dataName] := by
    rw [dataPath, Path.names_join relative, Path.names_ofString,
      Path.namesOf_name (isName_dataName slash)]
  have found := FileSystem.locate_name root names located directory
    (dataName_ne_up b) (toList_dataName_zero zero) (Nat.not_lt.1 longName) (Nat.not_lt.1 longPath)
  by_cases taken : first.at? (loc ++ [b.dataName]) = some .directory
  · exact .directory (FileSystem.isDirectory_iff.2 ⟨_, found, taken⟩)
  · have opened := Device.openFile_of_fileAt file (FileSystem.fileAt_eq_ok_iff.2 ⟨found, taken⟩)
    exact absurd ⟨payload, _, _, opened⟩ unopened

theorem stop_of_documented (stop : Stop w b html files e after)
    (documented : Documented w b html files first) :
    (¬DataOpened w b first → after = first ∧ Unusable w b first) ∧
    (DataOpened w b first →
      Frame [(b.dataPath b.outputPath.parent).location files.working] first after ∧
        ∃ n, after.read (b.dataPath b.outputPath.parent) = .ok (b.data.toUTF8.extract 0 n)) := by
  obtain ⟨frame, _, there⟩ := documented.frame
  cases stop with
  | directories failed =>
    obtain ⟨made, directories, _⟩ := documented
    rw [directories] at failed
    cases failed
  | document directories failed =>
    obtain ⟨made, directories', document⟩ := documented
    rw [directories] at directories'
    cases directories'
    rw [failed] at document
    cases document
  | payload documented' refused =>
    refine ⟨fun unopened => ⟨documented.unique documented', unusable_of_unopened there unopened⟩, ?_⟩
    rintro ⟨accepted, _⟩
    rw [refused] at accepted
    cases accepted
  | data documented' accepted failed =>
    rw [documented.unique documented'] at failed
    constructor
    · intro unopened
      exact ⟨Device.eq_of_unopened failed fun opened => unopened ⟨accepted, opened⟩,
        unusable_of_unopened there unopened⟩
    · rintro ⟨_, opened⟩
      rw [← frame.working]
      exact Device.part_of_opened failed opened

/-- What a build leaves that has its document and fails, whatever the platform refuses.  Until the file
of the document is opened, no file is changed.  From then on it holds a beginning of the document, and
the whole of it once it was written, unless the data file takes its place.  That holds a beginning of its
text as soon as it is opened, and no other file is changed. -/
theorem output_of_failed_run {ε : Type} (w : Platform ε) (b : PageBuild) (html : String)
    (rendered : b.render = .ok html) (files after : FileSystem) (e : BuildError ε)
    (failed : b.runOn w files = (.error e, after)) :
    let document := b.outputPath.location files.working
    let data := (b.dataPath b.outputPath.parent).location files.working
    (¬Opened w b files →
      Frame [] files after ∧ after.contentAt? b.outputPath = files.contentAt? b.outputPath) ∧
    (Opened w b files → (∀ first, ¬Documented w b html files first) →
      Frame [document] files after ∧
        ∃ n, after.read b.outputPath = .ok (html.toUTF8.extract 0 n)) ∧
    ∀ first, Documented w b html files first →
      Frame [document] files first ∧ first.read b.outputPath = .ok html.toUTF8 ∧
      (¬DataOpened w b first → after = first ∧ Unusable w b first) ∧
      (DataOpened w b first →
        Frame [data] first after ∧
        (∃ n, after.read (b.dataPath b.outputPath.parent) = .ok
          ((Json.document b.page.descriptor.toData).toUTF8.extract 0 n)) ∧
        (document ≠ data → after.read b.outputPath = .ok html.toUTF8)) := by
  intro document data
  obtain ⟨o, rfl, stop⟩ := stop_of_runOn rendered failed
  refine ⟨?unopened, stop_of_opened stop, ?documented⟩
  case unopened =>
    intro unopened
    have frame := stop_of_unopened stop unopened
    exact ⟨frame, FileSystem.contentAt?_of_frame frame List.not_mem_nil⟩
  case documented =>
    intro first documented
    obtain ⟨frame, whole, _⟩ := documented.frame
    obtain ⟨unopened, opened⟩ := stop_of_documented stop documented
    refine ⟨frame, whole, unopened, fun dataOpened => ?_⟩
    obtain ⟨frame', part⟩ := opened dataOpened
    refine ⟨frame', part, fun apart => frame'.read whole ?_⟩
    rw [frame.working, List.mem_singleton]
    exact apart

end Stops

/-! ## Builds that fail in the working directory -/

/-- A platform that has no room at one location. -/
def fullAt (here : Location) : Platform Unit where
  told _ := ()
  refusesDirectory _ _ := none
  refusesFile _ _ := none
  refusesText _ := none
  stops _ loc _ := if loc = here then some (0, ()) else none
  refusesData _ := none

section Full
variable {here loc : Location} {p : Path} {fs : FileSystem} {text : String}

theorem openFile_fullAt (found : fs.fileAt p = .ok loc) :
    (fullAt here).openFile p fs = (.ok loc, fs.set loc (.file .empty)) :=
  Device.openFile_of_fileAt rfl found

theorem writeFile_fullAt (found : fs.fileAt p = .ok here) :
    (fullAt here).writeFile p text fs = (.error (), fs.set here (.file .empty)) := by
  rw [Device.writeFile, Action.bind_of_ok (openFile_fullAt found)]
  simp only [Device.fill, Device.put, fullAt, if_pos, FileSystem.set_set, ByteArray.extract_same]

theorem writeFile_fullAt_other (found : fs.fileAt p = .ok loc) (other : loc ≠ here) :
    (fullAt here).writeFile p text fs = (.ok (), fs.set loc (.file text.toUTF8)) := by
  rw [Device.writeFile, Action.bind_of_ok (openFile_fullAt found)]
  simp only [Device.fill, Device.put, fullAt, if_neg other, FileSystem.set_set]

end Full

section Stages
variable {files : FileSystem} (working : files.working = [])
include working

/-- The data file of a key with a slash lies in a directory of its own, and where that is not there, the
build stops with its document written. -/
theorem stop_of_slash (html : String) (free : files.at? ["x.html"] ≠ some .directory)
    (absent : files.at? [".rport-pages-a"] = none) :
    let b := blank "a/b" "/x.html"
    let first := files.set ["x.html"] (.file html.toUTF8)
    Documented .faultless b html files first ∧ ¬DataOpened .faultless b first ∧
      Stop .faultless b html files .missing first := by
  intro b first
  have found : files.fileAt b.outputPath = .ok ["x.html"] :=
    FileSystem.fileAt_here working (by decide +kernel) free
  obtain ⟨located, _⟩ := FileSystem.fileAt_eq_ok_iff.1 found
  have documented : Documented .faultless b html files first :=
    ⟨files, FileSystem.makeDirectories_here working _ (by decide +kernel),
      Disk.writeFile_of_withFile (FileSystem.withFile_of_located located free _)⟩
  have absent' : first.at? [".rport-pages-a"] = none := by
    rw [FileSystem.at?_set, if_neg (by simp), if_neg (by simp)]
    exact absent
  have names : (b.dataPath b.outputPath.parent).names = [".rport-pages-a", "b-data.json"] := by
    decide +kernel
  have missing : first.fileAt (b.dataPath b.outputPath.parent) = .error .missing :=
    FileSystem.fileAt_of_absent working names (by decide +kernel) (by decide +kernel)
      (by decide +kernel) (by decide +kernel) absent'
  have unopened : Platform.faultless.openFile (b.dataPath b.outputPath.parent) first =
      (.error .missing, first) := Device.openFile_of_error rfl missing
  refine ⟨documented, ?_, .data documented rfl (Action.bind_of_error unopened)⟩
  rintro ⟨_, loc, opened, ran⟩
  rw [unopened] at ran
  cases ran

theorem stop_of_full (html : String) (free : files.at? ["x.html"] ≠ some .directory) :
    let b := blank "k" "/x.html"
    Opened (fullAt ["x.html"]) b files ∧
      (∀ first, ¬Documented (fullAt ["x.html"]) b html files first) ∧
      Stop (fullAt ["x.html"]) b html files () (files.set ["x.html"] (.file .empty)) := by
  intro b
  have found : files.fileAt b.outputPath = .ok ["x.html"] :=
    FileSystem.fileAt_here working (by decide +kernel) free
  have directories := FileSystem.makeDirectories_here working (fullAt ["x.html"]).toDevice
    (p := b.outputPath.parent) (by decide +kernel)
  refine ⟨⟨files, directories, _, _, openFile_fullAt found⟩, ?_,
    .document directories (writeFile_fullAt found)⟩
  rintro first ⟨made, directories', document⟩
  rw [directories] at directories'
  cases directories'
  rw [writeFile_fullAt found] at document
  cases document

theorem stop_of_full_data (html : String) (free : files.at? ["x.html"] ≠ some .directory)
    (absent : files.at? [".rport-pages-k-data.json"] = none) :
    let b := blank "k" "/x.html"
    let full := fullAt [".rport-pages-k-data.json"]
    let first := files.set ["x.html"] (.file html.toUTF8)
    Documented full b html files first ∧ DataOpened full b first ∧
      Stop full b html files () (first.set [".rport-pages-k-data.json"] (.file .empty)) := by
  intro b full first
  have found : files.fileAt b.outputPath = .ok ["x.html"] :=
    FileSystem.fileAt_here working (by decide +kernel) free
  have documented : Documented full b html files first :=
    ⟨files, FileSystem.makeDirectories_here working _ (by decide +kernel),
      writeFile_fullAt_other found (by simp)⟩
  have working' : first.working = [] := working
  have free' : first.at? [".rport-pages-k-data.json"] ≠ some .directory := by
    rw [FileSystem.at?_set, if_neg (by simp), if_neg (by simp), absent]
    simp
  have data : first.fileAt (b.dataPath b.outputPath.parent) = .ok [".rport-pages-k-data.json"] :=
    FileSystem.fileAt_here working' (by decide +kernel) free'
  exact ⟨documented, ⟨rfl, _, _, openFile_fullAt data⟩,
    .data documented rfl (writeFile_fullAt data)⟩

theorem stop_of_through (html : String) {content : ByteArray}
    (file : files.at? ["x.html"] = some (.file content)) :
    let b := blank "k" "/x.html/y.html"
    ¬Opened .faultless b files ∧ Stop .faultless b html files .alreadyExists files := by
  intro b
  have located : files.locate b.outputPath.parent = .ok ["x.html"] :=
    FileSystem.locate_name (by decide +kernel) (by decide +kernel) (FileSystem.locate_here working) rfl
      (by decide +kernel) (by decide +kernel) (by decide +kernel) (by decide +kernel)
  have taken := FileSystem.withDirectory_of_taken located file
  have refused : files.isDirectory b.outputPath.parent = false := by
    rw [Bool.eq_false_iff, Ne, FileSystem.isDirectory_iff]
    rintro ⟨loc, found, directory⟩
    rw [located] at found
    cases found
    rw [file] at directory
    cases directory
  have directories : Platform.faultless.makeDirectories b.outputPath.parent files =
      (.error .alreadyExists, files) := by
    rw [FileSystem.makeDirectories_eq_makeLast (by simp [taken])]
    simp only [Device.makeLast, Platform.faultless, Device.faultless, taken, refused]
    rfl
  refine ⟨?_, .directories directories⟩
  rintro ⟨made, directories', _⟩
  rw [directories] at directories'
  cases directories'

end Stages

/-- One build for each stage: a route that leads through a file leaves it, a document that finds no room
leaves an empty file in place of the old one, and a document is whole when the key gives no name for the
data file or when there is no room for that. -/
theorem output_of_failed_run_stages :
    let start := (FileSystem.new []).set ["x.html"] (.file "old".toUTF8)
    let through := blank "k" "/x.html/y.html"
    let slash := blank "a/b" "/x.html"
    let b := blank "k" "/x.html"
    let full := fullAt ["x.html"]
    let fullData := fullAt [".rport-pages-k-data.json"]
    (∃ html, through.render = .ok html ∧
      through.run start = (.error (.os .alreadyExists), start) ∧ ¬Opened .faultless through start ∧
      Frame [] start start) ∧
    (∃ html after, b.render = .ok html ∧ b.runOn full start = (.error (.os ()), after) ∧
      Opened full b start ∧ (∀ first, ¬Documented full b html start first) ∧
      ∃ n, after.read b.outputPath = .ok (html.toUTF8.extract 0 n)) ∧
    (∃ html after, slash.render = .ok html ∧ slash.run start = (.error (.os .missing), after) ∧
      Documented .faultless slash html start after ∧ ¬DataOpened .faultless slash after ∧
      after.read slash.outputPath = .ok html.toUTF8 ∧ Unusable .faultless slash after) ∧
    ∃ html first after, b.render = .ok html ∧ b.runOn fullData start = (.error (.os ()), after) ∧
      Documented fullData b html start first ∧ DataOpened fullData b first ∧
      after.read b.outputPath = .ok html.toUTF8 ∧
      ∃ n, after.read (b.dataPath b.outputPath.parent) =
        .ok ((Json.document b.page.descriptor.toData).toUTF8.extract 0 n) := by
  intro start through slash b full fullData
  have working : start.working = [] := rfl
  have file : start.at? ["x.html"] = some (.file "old".toUTF8) := by
    rw [FileSystem.at?_set, if_neg (by simp), if_pos rfl]
  have free : start.at? ["x.html"] ≠ some .directory := by simp [file]
  have absent : ∀ name, name ≠ "x.html" → start.at? [name] = none := by
    intro name other
    rw [FileSystem.at?_set, if_neg (by simp), if_neg (by simpa using other)]
    exact FileSystem.at?_new (by simp)
  refine ⟨?through, ?full, ?slash, ?fullData⟩
  case through =>
    obtain ⟨html, rendered⟩ := render_blank "k" "/x.html/y.html"
    obtain ⟨unopened, stop⟩ := stop_of_through working html file
    have failed := runOn_of_stop rendered stop
    obtain ⟨kept, _⟩ := output_of_failed_run .faultless through html rendered start _ _ failed
    exact ⟨html, rendered, failed, unopened, (kept unopened).1⟩
  case full =>
    obtain ⟨html, rendered⟩ := render_blank "k" "/x.html"
    obtain ⟨opened, undocumented, stop⟩ := stop_of_full working html free
    have failed := runOn_of_stop rendered stop
    obtain ⟨_, begun, _⟩ := output_of_failed_run full b html rendered start _ _ failed
    exact ⟨html, _, rendered, failed, opened, undocumented, (begun opened undocumented).2⟩
  case slash =>
    obtain ⟨html, rendered⟩ := render_blank "a/b" "/x.html"
    obtain ⟨documented, unopened, stop⟩ := stop_of_slash working html free (absent _ (by decide))
    have failed := runOn_of_stop rendered stop
    obtain ⟨_, _, left⟩ := output_of_failed_run .faultless slash html rendered start _ _ failed
    obtain ⟨_, whole, unusable, _⟩ := left _ documented
    exact ⟨html, _, rendered, failed, documented, unopened, whole, (unusable unopened).2⟩
  case fullData =>
    obtain ⟨html, rendered⟩ := render_blank "k" "/x.html"
    obtain ⟨documented, opened, stop⟩ := stop_of_full_data working html free (absent _ (by decide))
    have failed := runOn_of_stop rendered stop
    obtain ⟨_, _, left⟩ := output_of_failed_run fullData b html rendered start _ _ failed
    obtain ⟨_, _, _, begun⟩ := left _ documented
    obtain ⟨_, part, whole⟩ := begun opened
    exact ⟨html, _, _, rendered, failed, documented, opened, whole (by decide +kernel), part⟩

/-- A key with a slash asks for a data file in a directory that is not there, and the document that is
written before it stays.  Without room for the document the old one is lost all the same. -/
theorem document_without_data :
    let start := FileSystem.new []
    let slash := blank "a/b" "/x.html"
    let old := start.set ["x.html"] (.file "old".toUTF8)
    let b := blank "k" "/x.html"
    (∃ html after, slash.render = .ok html ∧ slash.run start = (.error (.os .missing), after) ∧
      start.contentAt? slash.outputPath = none ∧
      after.contentAt? slash.outputPath = some html.toUTF8 ∧
      after.contentAt? slash.outputPath ≠ start.contentAt? slash.outputPath) ∧
    ∃ html after, b.render = .ok html ∧
      b.runOn (fullAt ["x.html"]) old = (.error (.os ()), after) ∧
      old.contentAt? b.outputPath = some "old".toUTF8 ∧
      after.contentAt? b.outputPath = some .empty ∧
      after.contentAt? b.outputPath ≠ old.contentAt? b.outputPath := by
  intro start slash old b
  constructor
  · obtain ⟨html, rendered⟩ := render_blank "a/b" "/x.html"
    have absent : ∀ name, start.at? [name] = none := fun name => FileSystem.at?_new (by simp)
    have working : start.working = [] := rfl
    obtain ⟨documented, _, stop⟩ := stop_of_slash working html (by simp [absent]) (absent _)
    have before : start.contentAt? slash.outputPath = none := by decide +kernel
    obtain ⟨_, whole, _⟩ := documented.frame
    have after := FileSystem.contentAt?_of_read whole
    refine ⟨html, _, rendered, runOn_of_stop rendered stop, before, after, ?_⟩
    rw [before, after]
    exact Option.some_ne_none _
  · obtain ⟨html, rendered⟩ := render_blank "k" "/x.html"
    have place : b.outputPath.location [] = ["x.html"] := by decide +kernel
    have before : old.contentAt? b.outputPath = some "old".toUTF8 :=
      FileSystem.contentAt?_set place (by simp)
    have free : old.at? ["x.html"] ≠ some .directory := by
      rw [FileSystem.at?_set, if_neg (by simp), if_pos rfl]
      simp
    have working : old.working = [] := rfl
    obtain ⟨_, _, stop⟩ := stop_of_full working html free
    have after : (old.set ["x.html"] (.file .empty)).contentAt? b.outputPath = some .empty :=
      FileSystem.contentAt?_set place (by simp)
    refine ⟨html, _, rendered, runOn_of_stop rendered stop, before, after, ?_⟩
    rw [before, after]
    decide +kernel

end PageBuild
end DocPages
