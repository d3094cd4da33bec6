import DocPages.Build
import DocPages.Proofs.FileSystem.Device
import DocPages.Proofs.FileSystem.Directories
/-! # What builds write

A build that succeeds has made directories and written its document and then its data file
(`wrote_of_run`), and a run of several builds has written the files of one after those of another
(`wrote_of_runAll`).  A build that fails with its document there has stopped at one of these steps
(`stop_of_runOn`). -/
set_option autoImplicit false
namespace DocPages.PageBuild

open FileSystem (Wrote)

section Steps
variable {ε : Type} {action : DiskOn ε Unit} {files after : FileSystem}

theorem onDisk_eq_ok {done : Unit} (ran : onDisk action files = (.ok done, after)) :
    action files = (.ok (), after) := by
  unfold onDisk at ran
  split at ran
  next succeeded =>
    cases ran
    exact succeeded
  next => cases ran

theorem onDisk_of_ok (done : action files = (.ok (), after)) :
    onDisk action files = (.ok (), after) := by
  rw [onDisk, done]

theorem onDisk_of_error {e : ε} (failed : action files = (.error e, after)) :
    onDisk action files = (.error (.os e), after) := by
  rw [onDisk, failed]

theorem onDisk_eq_error {e : BuildError ε} (failed : onDisk action files = (.error e, after)) :
    ∃ o, e = .os o ∧ action files = (.error o, after) := by
  unfold onDisk at failed
  split at failed
  next => cases failed
  next stopped =>
    cases failed
    exact ⟨_, rfl, stopped⟩

end Steps

theorem document_of_render {b : PageBuild} {html : String} (rendered : b.render = .ok html) :
    ∃ d, b.document = .ok d ∧ html = d.write := by
  rw [render] at rendered
  cases made : b.document with
  | error e =>
    rw [made, Except.map] at rendered
    cases rendered
  | ok d =>
    rw [made, Except.map, Except.ok.injEq] at rendered
    exact ⟨d, rfl, rendered.symm⟩

theorem headers_of_document {b : PageBuild} {d : Document} (made : b.document = .ok d) :
    d.headers = b.page.descriptor.headers := by
  unfold document at made
  obtain ⟨tree, _, made⟩ := Action.bind_result_eq_ok made
  obtain ⟨content, _, made⟩ := Action.bind_result_eq_ok made
  cases made
  rfl

def written (b : PageBuild) : List (Path × String) :=
  match b.render with
  | .ok html => [(b.outputPath, html), (b.dataPath b.outputPath.parent, b.data)]
  | .error _ => []

theorem written_eq {b : PageBuild} {html : String} (rendered : b.render = .ok html) :
    b.written = [(b.outputPath, html), (b.dataPath b.outputPath.parent, b.data)] := by
  rw [written, rendered]

section Platforms
variable {ε : Type} {w : Platform ε} {b : PageBuild} {files made first after : FileSystem}
variable {html : String} {directory path : Path}

/-! ## The data file -/

theorem writeDataOn_of_accepted (accepted : w.refusesData b.page.descriptor.toData = none)
    (directory : Path) : b.writeDataOn w directory files =
      (onDisk (w.writeFile (b.dataPath directory) b.data) >>= fun _ =>
        pure (b.dataPath directory)) files := by
  rw [writeDataOn, dataOn, accepted]
  rfl

theorem writeDataOn_of_refused {e : ε} (refused : w.refusesData b.page.descriptor.toData = some e)
    (directory : Path) : b.writeDataOn w directory files = (.error (.os e), files) := by
  rw [writeDataOn, dataOn, refused]
  rfl

theorem writeDataOn_of_ok (accepted : w.refusesData b.page.descriptor.toData = none)
    (data : w.writeFile (b.dataPath directory) b.data files = (.ok (), after)) :
    b.writeDataOn w directory files = (.ok (b.dataPath directory), after) := by
  rw [writeDataOn_of_accepted accepted, Action.bind_of_ok (onDisk_of_ok data)]
  rfl

theorem writeDataOn_eq_ok (ran : b.writeDataOn w directory files = (.ok path, after)) :
    path = b.dataPath directory ∧
      files.withFile (b.dataPath directory) b.data.toUTF8 = .ok after := by
  cases refused : w.refusesData b.page.descriptor.toData with
  | some e =>
    rw [writeDataOn_of_refused refused] at ran
    cases ran
  | none =>
    rw [writeDataOn_of_accepted refused] at ran
    obtain ⟨_, _, data, noted⟩ := Action.bind_eq_ok ran
    obtain ⟨rfl, rfl⟩ := Action.pure_eq_ok noted
    exact ⟨rfl, Device.withFile_of_writeFile (onDisk_eq_ok data)⟩

theorem writeDataOn_eq_error {e : BuildError ε}
    (failed : b.writeDataOn w directory files = (.error e, after)) : ∃ o, e = .os o ∧
      ((w.refusesData b.page.descriptor.toData = some o ∧ after = files) ∨
      (w.refusesData b.page.descriptor.toData = none ∧
        w.writeFile (b.dataPath directory) b.data files = (.error o, after))) := by
  cases refused : w.refusesData b.page.descriptor.toData with
  | some o =>
    rw [writeDataOn_of_refused refused] at failed
    cases failed
    exact ⟨o, rfl, Or.inl ⟨rfl, rfl⟩⟩
  | none =>
    rw [writeDataOn_of_accepted refused] at failed
    rcases Action.bind_eq_error failed with stopped | ⟨_, _, _, finished⟩
    · obtain ⟨o, rfl, ran⟩ := onDisk_eq_error stopped
      exact ⟨o, rfl, Or.inr ⟨rfl, ran⟩⟩
    · cases finished

/-! ## The steps of a build -/

theorem runOn_of_render_error {e : BuildError} (failed : b.render = .error e) :
    b.runOn w files = (.error (e.map w.told), files) := by
  rw [runOn, failed]
  rfl

/-- A build writes once it has its document. -/
theorem runOn_of_render (rendered : b.render = .ok html) :
    b.runOn w files = (onDisk (w.makeDirectories b.outputPath.parent) >>= fun _ =>
      onDisk (w.writeFile b.outputPath html) >>= fun _ =>
      b.writeDataOn w b.outputPath.parent >>= fun _ => pure b.outputPath) files := by
  rw [runOn, rendered, Action.mapError_ok]
  rfl

/-- The document of a build has been written, and nothing after it. -/
def Documented (w : Platform ε) (b : PageBuild) (html : String) (files first : FileSystem) : Prop :=
  ∃ made, w.makeDirectories b.outputPath.parent files = (.ok (), made) ∧
    w.writeFile b.outputPath html made = (.ok (), first)

theorem runOn_of_documented (rendered : b.render = .ok html)
    (documented : Documented w b html files first) : b.runOn w files =
      (b.writeDataOn w b.outputPath.parent >>= fun _ => pure b.outputPath) first := by
  obtain ⟨made, directories, document⟩ := documented
  rw [runOn_of_render rendered, Action.bind_of_ok (onDisk_of_ok directories),
    Action.bind_of_ok (onDisk_of_ok document)]

theorem runOn_of_steps (rendered : b.render = .ok html)
    (documented : Documented w b html files first)
    (accepted : w.refusesData b.page.descriptor.toData = none)
    (data : w.writeFile (b.dataPath b.outputPath.parent) b.data first = (.ok (), after)) :
    b.runOn w files = (.ok b.outputPath, after) := by
  rw [runOn_of_documented rendered documented,
    Action.bind_of_ok (writeDataOn_of_ok accepted data)]
  rfl

theorem runOn_eq_ok (ran : b.runOn w files = (.ok path, after)) :
    path = b.outputPath ∧ ∃ html made first, b.render = .ok html ∧
      w.makeDirectories b.outputPath.parent files = (.ok (), made) ∧
      made.withFile b.outputPath html.toUTF8 = .ok first ∧
      first.withFile (b.dataPath b.outputPath.parent) b.data.toUTF8 = .ok after := by
  cases rendered : b.render with
  | error e =>
    rw [runOn_of_render_error rendered] at ran
    cases ran
  | ok html =>
    rw [runOn_of_render rendered] at ran
    obtain ⟨_, made, directories, ran⟩ := Action.bind_eq_ok ran
    obtain ⟨_, first, document, ran⟩ := Action.bind_eq_ok ran
    obtain ⟨_, _, data, ran⟩ := Action.bind_eq_ok ran
    obtain ⟨rfl, rfl⟩ := Action.pure_eq_ok ran
    exact ⟨rfl, html, made, first, rfl, onDisk_eq_ok directories,
      Device.withFile_of_writeFile (onDisk_eq_ok document), (writeDataOn_eq_ok data).2⟩

/-- The step at which a build stops that has its document. -/
inductive Stop (w : Platform ε) (b : PageBuild) (html : String) (files : FileSystem) :
    ε → FileSystem → Prop
  | directories {e : ε} {after : FileSystem}
      (failed : w.makeDirectories b.outputPath.parent files = (.error e, after)) :
      Stop w b html files e after
  | document {e : ε} {made after : FileSystem}
      (directories : w.makeDirectories b.outputPath.parent files = (.ok (), made))
      (failed : w.writeFile b.outputPath html made = (.error e, after)) : Stop w b html files e after
  | payload {e : ε} {first : FileSystem} (documented : Documented w b html files first)
      (refused : w.refusesData b.page.descriptor.toData = some e) : Stop w b html files e first
  | data {e : ε} {first after : FileSystem} (documented : Documented w b html files first)
      (accepted : w.refusesData b.page.descriptor.toData = none)
      (failed : w.writeFile (b.dataPath b.outputPath.parent) b.data first = (.error e, after)) :
      Stop w b html files e after

theorem runOn_of_stop (rendered : b.render = .ok html) {e : ε}
    (stop : Stop w b html files e after) : b.runOn w files = (.error (.os e), after) := by
  cases stop with
  | directories failed =>
    rw [runOn_of_render rendered]
    exact Action.bind_of_error (onDisk_of_error failed)
  | document directories failed =>
    rw [runOn_of_render rendered, Action.bind_of_ok (onDisk_of_ok directories)]
    exact Action.bind_of_error (onDisk_of_error failed)
  | payload documented refused =>
    rw [runOn_of_documented rendered documented]
    exact Action.bind_of_error (writeDataOn_of_refused refused _)
  | data documented accepted failed =>
    rw [runOn_of_documented rendered documented]
    apply Action.bind_of_error
    rw [writeDataOn_of_accepted accepted]
    exact Action.bind_of_error (onDisk_of_error failed)

theorem stop_of_runOn (rendered : b.render = .ok html) {e : BuildError ε}
    (failed : b.runOn w files = (.error e, after)) :
    ∃ o, e = .os o ∧ Stop w b html files o after := by
  rw [runOn_of_render rendered] at failed
  rcases Action.bind_eq_error failed with stopped | ⟨_, made, directories, failed⟩
  · obtain ⟨o, rfl, ran⟩ := onDisk_eq_error stopped
    exact ⟨o, rfl, .directories ran⟩
  have directories := onDisk_eq_ok directories
  rcases Action.bind_eq_error failed with stopped | ⟨_, first, document, failed⟩
  · obtain ⟨o, rfl, ran⟩ := onDisk_eq_error stopped
    exact ⟨o, rfl, .document directories ran⟩
  have documented : Documented w b html files first := ⟨made, directories, onDisk_eq_ok document⟩
  rcases Action.bind_eq_error failed with stopped | ⟨_, _, _, finished⟩
  · obtain ⟨o, rfl, ⟨refused, rfl⟩ | ⟨accepted, ran⟩⟩ := writeDataOn_eq_error stopped
    · exact ⟨o, rfl, .payload documented refused⟩
    · exact ⟨o, rfl, .data documented accepted ran⟩
  · cases finished

end Platforms

/-! ## Runs without faults -/

theorem run_eq_ok {b : PageBuild} {files after : FileSystem} {path : Path}
    (ran : b.run files = (.ok path, after)) :
    path = b.outputPath ∧ ∃ html made first, b.render = .ok html ∧
      Disk.makeDirectories b.outputPath.parent files = (.ok (), made) ∧
      made.withFile b.outputPath html.toUTF8 = .ok first ∧
      first.withFile (b.dataPath b.outputPath.parent) b.data.toUTF8 = .ok after :=
  runOn_eq_ok ran

theorem run_of_steps {b : PageBuild} {files made first after : FileSystem} {html : String}
    (rendered : b.render = .ok html)
    (directories : Disk.makeDirectories b.outputPath.parent files = (.ok (), made))
    (document : Disk.writeFile b.outputPath html made = (.ok (), first))
    (data : Disk.writeFile (b.dataPath b.outputPath.parent) b.data first = (.ok (), after)) :
    b.run files = (.ok b.outputPath, after) :=
  runOn_of_steps (w := .faultless) rendered ⟨made, directories, document⟩ rfl data

theorem wrote_of_run {b : PageBuild} {files after : FileSystem} {path : Path}
    (ran : b.run files = (.ok path, after)) :
    path = b.outputPath ∧ (∃ html, b.render = .ok html) ∧ Wrote files b.written after := by
  obtain ⟨finished, html, made, first, rendered, directories, document, data⟩ := run_eq_ok ran
  refine ⟨finished, ⟨html, rendered⟩, ?_⟩
  rw [written_eq rendered]
  exact .directories directories (.file document (.file data (.nothing _)))

def runAll (builds : List PageBuild) : Building (List Path) := builds.mapM run

theorem wrote_of_runAll {builds : List PageBuild} {files after : FileSystem} {paths : List Path}
    (ran : runAll builds files = (.ok paths, after)) :
    paths = builds.map outputPath ∧ (∀ b ∈ builds, ∃ html, b.render = .ok html) ∧
      Wrote files (builds.flatMap written) after := by
  induction builds generalizing files paths with
  | nil =>
    rw [runAll, List.mapM_nil] at ran
    cases ran
    exact ⟨rfl, by simp, .nothing _⟩
  | cons b builds ih =>
    rw [runAll, List.mapM_cons] at ran
    obtain ⟨path, _, first, ran⟩ := Action.bind_eq_ok ran
    obtain ⟨paths, _, rest, finished⟩ := Action.bind_eq_ok ran
    obtain ⟨rfl, rfl⟩ := Action.pure_eq_ok finished
    obtain ⟨rfl, rendered, wrote⟩ := wrote_of_run first
    obtain ⟨rfl, renderedAll, wroteAll⟩ := ih rest
    refine ⟨rfl, ?_, wrote.append wroteAll⟩
    intro b' mem
    rcases List.mem_cons.1 mem with rfl | mem
    · exact rendered
    · exact renderedAll b' mem

/-! ## Builds that succeed -/

def Writable (files : FileSystem) (p : Path) : Prop :=
  ∃ loc, files.locate p = .ok loc ∧ files.at? loc ≠ some .directory

/-- The directory of a build is there, and both of its files may be written in it. -/
structure Ready (files : FileSystem) (b : PageBuild) : Prop where
  rendered : ∃ html, b.render = .ok html
  directory : files.isDirectory b.outputPath.parent = true
  document : Writable files b.outputPath
  data : Writable files (b.dataPath b.outputPath.parent)

theorem Writable.write {files : FileSystem} {p : Path} (writable : Writable files p) (text : String) :
    ∃ after, Disk.writeFile p text files = (.ok (), after) ∧
      (∀ q, Writable files q → Writable after q) ∧
      ∀ q, files.isDirectory q = true → after.isDirectory q = true := by
  obtain ⟨loc, located, free⟩ := writable
  have written := FileSystem.withFile_of_located located free text.toUTF8
  have frame := FileSystem.Frame.withFile written
  refine ⟨files.set loc (.file text.toUTF8), Disk.writeFile_of_withFile written, ?_, ?_⟩
  · rintro q ⟨found, way, other⟩
    refine ⟨found, frame.locate way, ?_⟩
    rw [FileSystem.at?_set]
    split
    next root => exact absurd (by rw [root]; rfl) other
    next =>
      split
      next => simp
      next => exact other
  · intro q there
    exact FileSystem.isDirectory_of_frame frame there

theorem Ready.run_of_made {files made : FileSystem} {b : PageBuild} (ready : Ready made b)
    (directories : Disk.makeDirectories b.outputPath.parent files = (.ok (), made)) :
    ∃ after, b.run files = (.ok b.outputPath, after) ∧ ∀ b', Ready made b' → Ready after b' := by
  obtain ⟨html, rendered⟩ := ready.rendered
  obtain ⟨first, document, kept, there⟩ := ready.document.write html
  obtain ⟨after, data, kept', there'⟩ := (kept _ ready.data).write b.data
  exact ⟨after, run_of_steps rendered directories document data, fun b' ready' =>
    ⟨ready'.rendered, there' _ (there _ ready'.directory), kept' _ (kept _ ready'.document),
      kept' _ (kept _ ready'.data)⟩⟩

theorem Ready.run {files : FileSystem} {b : PageBuild} (ready : Ready files b) :
    ∃ after, b.run files = (.ok b.outputPath, after) ∧ ∀ b', Ready files b' → Ready after b' :=
  ready.run_of_made (FileSystem.makeDirectories_of_isDirectory ready.directory)

theorem runAll_of_ready {builds : List PageBuild} {files : FileSystem}
    (ready : ∀ b ∈ builds, Ready files b) :
    ∃ after, runAll builds files = (.ok (builds.map outputPath), after) := by
  induction builds generalizing files with
  | nil =>
    rw [runAll, List.mapM_nil]
    exact ⟨files, rfl⟩
  | cons b builds ih =>
    obtain ⟨middle, ran, kept⟩ := (ready b List.mem_cons_self).run
    obtain ⟨after, ranAll⟩ := ih fun b' mem => kept b' (ready b' (List.mem_cons_of_mem _ mem))
    refine ⟨after, ?_⟩
    rw [runAll] at ranAll ⊢
    rw [List.mapM_cons, Action.bind_of_ok ran, Action.bind_of_ok ranAll]
    rfl

end DocPages.PageBuild
