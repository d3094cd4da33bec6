import DocPages.Proofs.FileSystem.Parent
/-! # Directories that are made

Directories stay where they are (`isDirectory_of_frame`), and one is there after it has been asked for
exactly if that succeeded (`isDirectory_makeDirectories_iff`). -/
set_option autoImplicit false
namespace DocPages.FileSystem
variable {fs after : FileSystem} {p : Path}

theorem isDirectory_iff : fs.isDirectory p = true ↔
    ∃ loc, fs.locate p = .ok loc ∧ fs.at? loc = some .directory := by
  unfold isDirectory entry
  cases located : fs.locate p with
  | error e => simp [bind, Except.bind]
  | ok loc =>
    cases found : fs.at? loc with
    | none => simp [bind, Except.bind, found]
    | some e => cases e <;> simp [bind, Except.bind, found]

theorem isDirectory_of_frame {written : List Location} (frame : Frame written fs after)
    (there : fs.isDirectory p = true) : after.isDirectory p = true := by
  obtain ⟨loc, located, directory⟩ := isDirectory_iff.1 there
  exact isDirectory_iff.2 ⟨loc, frame.locate located, frame.directories loc directory⟩

theorem isDirectory_of_withDirectory (made : fs.withDirectory p = .ok after) :
    after.isDirectory p = true := by
  have frame := Frame.withDirectory made
  obtain ⟨loc, located, free, rfl⟩ := withDirectory_eq_ok made
  have below : loc ≠ [] := by
    rintro rfl
    cases free
  refine isDirectory_iff.2 ⟨loc, frame.locate located, ?_⟩
  rw [at?_set, if_neg below, if_pos rfl]

theorem isDirectory_parent (there : fs.isDirectory p = true) (named : p.names ≠ []) :
    fs.isDirectory p.parent = true := by
  obtain ⟨loc, located, _⟩ := isDirectory_iff.1 there
  exact isDirectory_iff.2 (locate_parent located named)

section Devices
variable {ε : Type} {w : Device ε}

theorem makeLast_of_isDirectory (there : fs.isDirectory p = true) :
    w.makeLast p fs = (.ok (), fs) := by
  rcases w.makeLast_cases p fs with ⟨after, made, _⟩ | ⟨_, ran⟩ | ⟨_, absent, _⟩
  · obtain ⟨loc, located, directory⟩ := isDirectory_iff.1 there
    rw [withDirectory_of_taken located directory] at made
    cases made
  · exact ran
  · rw [there] at absent
    cases absent

theorem isDirectory_makeLast_iff (w : Device ε) (p : Path) (fs : FileSystem) :
    (w.makeLast p fs).2.isDirectory p = true ↔ (w.makeLast p fs).1 = .ok () := by
  rcases w.makeLast_cases p fs with ⟨after, made, ran⟩ | ⟨there, ran⟩ | ⟨e, absent, ran⟩
  · simp [ran, isDirectory_of_withDirectory made]
  · simp [ran, there]
  · simp [ran, absent]

/-- A directory is there in the end exactly if it could be made. -/
theorem isDirectory_makeDirectories_iff (w : Device ε) (p : Path) (fs : FileSystem) :
    (w.makeDirectories p fs).2.isDirectory p = true ↔ (w.makeDirectories p fs).1 = .ok () := by
  refine w.makeDirectories_induction
    (motive := fun p _ made => made.2.isDirectory p = true ↔ made.1 = .ok ())
    (isDirectory_makeLast_iff w) ?stopped ?next p fs
  case stopped =>
    exact fun p _ _ _ named above =>
      ⟨fun there => above.1 (isDirectory_parent there named), fun done => by cases done⟩
  case next => exact fun p _ made _ _ => isDirectory_makeLast_iff w p made

theorem isDirectory_of_makeDirectories (made : w.makeDirectories p fs = (.ok (), after)) :
    after.isDirectory p = true := by
  have there := isDirectory_makeDirectories_iff w p fs
  rw [made] at there
  exact there.2 rfl

theorem lacksParent_eq_true_iff : w.lacksParent fs p = true ↔
    w.refusesDirectory fs p = none ∧ fs.withDirectory p = .error .missing := by
  unfold Device.lacksParent
  split
  next refused missing => simp [refused, missing]
  next other =>
    simp only [Bool.false_eq_true, false_iff]
    rintro ⟨refused, missing⟩
    exact other refused missing

theorem makeDirectories_eq_makeLast (found : fs.withDirectory p ≠ .error .missing) :
    w.makeDirectories p fs = w.makeLast p fs := by
  rw [Device.makeDirectories, dif_neg]
  rintro ⟨_, lacks⟩
  exact found (lacksParent_eq_true_iff.1 lacks).2

theorem makeDirectories_of_isDirectory (there : fs.isDirectory p = true) :
    w.makeDirectories p fs = (.ok (), fs) := by
  obtain ⟨loc, located, directory⟩ := isDirectory_iff.1 there
  rw [makeDirectories_eq_makeLast, makeLast_of_isDirectory there]
  rw [withDirectory_of_taken located directory]
  simp

theorem makeDirectories_of_free {loc : Location} (located : fs.locate p = .ok loc)
    (free : fs.at? loc = none) :
    Disk.makeDirectories p fs = (.ok (), fs.set loc .directory) := by
  have made := withDirectory_of_free located free
  rw [Disk.makeDirectories, makeDirectories_eq_makeLast (by simp [made])]
  simp only [Device.makeLast, Device.faultless, made]

theorem makeDirectories_of_parent (missing : fs.locate p = .error .missing) (named : p.names ≠ [])
    (parent : Disk.makeDirectories p.parent fs = (.ok (), after))
    (there : after.isDirectory p = true) : Disk.makeDirectories p fs = (.ok (), after) := by
  have lacks : Device.faultless.lacksParent fs p = true := by
    refine lacksParent_eq_true_iff.2 ⟨rfl, ?_⟩
    rw [withDirectory, missing]
    rfl
  rw [Disk.makeDirectories] at parent ⊢
  rw [Device.makeDirectories, dif_pos ⟨named, lacks⟩, Action.bind_of_ok parent]
  exact makeLast_of_isDirectory there

end Devices

section Here
variable (working : fs.working = [])
include working

theorem locate_here : fs.locate (.ofString ".") = .ok [] := by
  rw [locate_eq_walk (by decide +kernel) (by decide +kernel), working, ite_self]
  rfl

theorem fileAt_here {name : String} (usable : p.root = .none ∧ p.names = [name] ∧ name ≠ ".." ∧
      '\x00' ∉ name.toList ∧ name.utf8ByteSize ≤ maxNameBytes ∧ p.toString.utf8ByteSize ≤ maxPathBytes)
    (free : fs.at? [name] ≠ some .directory) : fs.fileAt p = .ok [name] := by
  obtain ⟨root, names, down, clean, short, shortPath⟩ := usable
  have located := locate_name root names (locate_here working) rfl down clean short shortPath
  exact fileAt_eq_ok_iff.2 ⟨located, free⟩

theorem makeDirectories_here {ε : Type} (w : Device ε) (here : p = .ofString ".") :
    w.makeDirectories p fs = (.ok (), fs) := by
  apply makeDirectories_of_isDirectory
  rw [here]
  exact isDirectory_iff.2 ⟨[], locate_here working, rfl⟩

end Here
end DocPages.FileSystem
