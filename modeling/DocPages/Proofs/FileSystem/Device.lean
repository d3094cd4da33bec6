import DocPages.Proofs.FileSystem.Frame
/-! # Files that are written on a device

A file is not opened and nothing changes, or it is opened and holds a beginning of the text from then on,
the whole text if no error follows (`writeFile_cases`). -/
set_option autoImplicit false
namespace DocPages

namespace FileSystem

/-- What the file that a path names holds, if there is one. -/
def contentAt? (files : FileSystem) (p : Path) : Option ByteArray :=
  match files.at? (p.location files.working) with
  | some (.file content) => some content
  | _ => none

section Content
variable {before after : FileSystem} {p : Path} {content : ByteArray}

theorem contentAt?_eq_some_iff : before.contentAt? p = some content ↔
    before.at? (p.location before.working) = some (.file content) := by
  unfold contentAt?
  split <;> simp_all

theorem contentAt?_of_read (reads : before.read p = .ok content) :
    before.contentAt? p = some content := by
  obtain ⟨loc, located, file⟩ := read_eq_ok_iff.1 reads
  rw [locate_eq_location located] at file
  exact contentAt?_eq_some_iff.2 file

theorem contentAt?_set {loc : Location} (place : p.location before.working = loc) (below : loc ≠ []) :
    (before.set loc (.file content)).contentAt? p = some content := by
  have working : (before.set loc (.file content)).working = before.working := rfl
  rw [contentAt?_eq_some_iff, working, place, at?_set, if_neg below, if_pos rfl]

theorem contentAt?_of_frame {written : List Location} (frame : Frame written before after)
    (other : p.location before.working ∉ written) : after.contentAt? p = before.contentAt? p := by
  apply Option.ext
  intro content
  rw [contentAt?_eq_some_iff, contentAt?_eq_some_iff, frame.working]
  exact frame.files _ content other

end Content

end FileSystem

namespace Device
variable {ε : Type} {w : Device ε} {p : Path} {fs after : FileSystem} {loc : Location}

theorem openFile_cases (w : Device ε) (p : Path) (fs : FileSystem) :
    (∃ e, w.openFile p fs = (.error e, fs)) ∨
    ∃ loc, fs.fileAt p = .ok loc ∧ w.openFile p fs = (.ok loc, fs.set loc (.file .empty)) := by
  unfold openFile
  cases w.refusesFile fs p with
  | some e => exact Or.inl ⟨e, rfl⟩
  | none =>
    cases fs.fileAt p with
    | error e => exact Or.inl ⟨w.told e, rfl⟩
    | ok loc => exact Or.inr ⟨loc, rfl, rfl⟩

theorem openFile_of_fileAt (accepted : w.refusesFile fs p = none) (found : fs.fileAt p = .ok loc) :
    w.openFile p fs = (.ok loc, fs.set loc (.file .empty)) := by
  unfold openFile
  rw [accepted, found]

theorem openFile_of_error {e : OsError} (accepted : w.refusesFile fs p = none)
    (failed : fs.fileAt p = .error e) : w.openFile p fs = (.error (w.told e), fs) := by
  unfold openFile
  rw [accepted, failed]

theorem fill_cases (w : Device ε) (fs : FileSystem) (loc : Location) (text : String) :
    w.fill loc text (fs.set loc (.file .empty)) = (.ok (), fs.set loc (.file text.toUTF8)) ∨
    ∃ e n, w.fill loc text (fs.set loc (.file .empty)) =
      (.error e, fs.set loc (.file (text.toUTF8.extract 0 n))) := by
  unfold fill
  cases w.refusesText text with
  | some e => exact Or.inr ⟨e, 0, by simp⟩
  | none =>
    simp only [put]
    cases w.stops (fs.set loc (.file .empty)) loc text.toUTF8 with
    | none => exact Or.inl (by simp only [FileSystem.set_set])
    | some stop => exact Or.inr ⟨stop.2, stop.1, by simp only [FileSystem.set_set]⟩

/-- A file is not opened, or written as a whole, or open when writing fails. -/
theorem writeFile_cases (w : Device ε) (p : Path) (text : String) (fs : FileSystem) :
    (∃ e, w.openFile p fs = (.error e, fs) ∧ w.writeFile p text fs = (.error e, fs)) ∨
    ∃ loc, fs.fileAt p = .ok loc ∧ w.openFile p fs = (.ok loc, fs.set loc (.file .empty)) ∧
      (w.writeFile p text fs = (.ok (), fs.set loc (.file text.toUTF8)) ∨
      ∃ e n, w.writeFile p text fs = (.error e, fs.set loc (.file (text.toUTF8.extract 0 n)))) := by
  unfold writeFile
  rcases openFile_cases w p fs with ⟨e, refused⟩ | ⟨loc, found, opened⟩
  · exact Or.inl ⟨e, refused, Action.bind_of_error refused⟩
  · rw [Action.bind_of_ok opened]
    exact Or.inr ⟨loc, found, opened, fill_cases w fs loc text⟩

theorem withFile_of_writeFile {text : String} (ran : w.writeFile p text fs = (.ok (), after)) :
    fs.withFile p text.toUTF8 = .ok after := by
  rcases writeFile_cases w p text fs with ⟨e, _, failed⟩ | ⟨loc, found, _, whole | ⟨e, n, part⟩⟩
  · rw [failed] at ran
    cases ran
  · rw [whole] at ran
    cases ran
    obtain ⟨located, free⟩ := FileSystem.fileAt_eq_ok_iff.1 found
    exact FileSystem.withFile_of_located located free _
  · rw [part] at ran
    cases ran

section Failures
variable {text : String} {e : ε}

theorem eq_of_unopened (failed : w.writeFile p text fs = (.error e, after))
    (unopened : ¬∃ loc opened, w.openFile p fs = (.ok loc, opened)) : after = fs := by
  rcases writeFile_cases w p text fs with ⟨e', _, ran⟩ | ⟨loc, _, opened, _⟩
  · rw [failed] at ran
    cases ran
    rfl
  · exact absurd ⟨loc, _, opened⟩ unopened

/-- A file that was opened holds a beginning of what was to be written to it. -/
theorem part_of_opened (failed : w.writeFile p text fs = (.error e, after))
    (opened : ∃ loc opened, w.openFile p fs = (.ok loc, opened)) :
    FileSystem.Frame [p.location fs.working] fs after ∧
      ∃ n, after.read p = .ok (text.toUTF8.extract 0 n) := by
  obtain ⟨loc', _, opened⟩ := opened
  rcases writeFile_cases w p text fs with ⟨e', refused, _⟩ | ⟨loc, found, _, whole | ⟨e', n, part⟩⟩
  · rw [opened] at refused
    cases refused
  · rw [failed] at whole
    cases whole
  · rw [failed] at part
    cases part
    obtain ⟨located, free⟩ := FileSystem.fileAt_eq_ok_iff.1 found
    have placed := FileSystem.withFile_of_located located free (text.toUTF8.extract 0 n)
    exact ⟨FileSystem.Frame.withFile placed, n, FileSystem.read_withFile placed⟩

end Failures

end Device

namespace Disk
variable {p : Path} {text : String} {fs after : FileSystem}

theorem writeFile_of_withFile (written : fs.withFile p text.toUTF8 = .ok after) :
    writeFile p text fs = (.ok (), after) := by
  obtain ⟨loc, located, free, rfl⟩ := FileSystem.withFile_eq_ok written
  have opened := Device.openFile_of_fileAt (w := .faultless) rfl
    (FileSystem.fileAt_eq_ok_iff.2 ⟨located, free⟩)
  rw [writeFile, Device.writeFile, Action.bind_of_ok opened]
  simp only [Device.fill, Device.put, Device.faultless, FileSystem.set_set]

theorem writeFile_of_read {text : String} (there : fs.read p = .ok text.toUTF8) :
    writeFile p text fs = (.ok (), fs) := by
  obtain ⟨loc, located, file⟩ := FileSystem.read_eq_ok_iff.1 there
  have written := FileSystem.withFile_of_located located (by simp [file]) text.toUTF8
  rw [FileSystem.set_of_at? (FileSystem.ne_root_of_file file) file] at written
  exact writeFile_of_withFile written

theorem writeFile_back {q : Path} {old : String} (text : String)
    (there : fs.read q = .ok old.toUTF8) (same : fs.locate p = fs.locate q) :
    ∃ first, writeFile p text fs = (.ok (), first) ∧
      writeFile q old first = (.ok (), fs) := by
  obtain ⟨loc, located, file⟩ := FileSystem.read_eq_ok_iff.1 there
  have below := FileSystem.ne_root_of_file file
  have written := FileSystem.withFile_of_located (same.trans located) (by simp [file]) text.toUTF8
  have located' := (FileSystem.Frame.withFile written).locate located
  have back := FileSystem.withFile_of_located located'
    (by simp [FileSystem.at?_set, below]) old.toUTF8
  rw [FileSystem.set_set, FileSystem.set_of_at? below file] at back
  exact ⟨_, writeFile_of_withFile written, writeFile_of_withFile back⟩

end Disk
end DocPages
