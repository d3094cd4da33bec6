import DocPages.FileSystem
/-! # What is written to a disk

Writing a file changes what is at one location, and no way leads through it: as long as directories
stay directories, a path leads where it led before (`locate_of_directories`).  So reading the path of
a file that was written gives its content. -/
set_option autoImplicit false
namespace DocPages.FileSystem

theorem at?_set (fs : FileSystem) (loc l : Location) (entry : Entry) :
    (fs.set loc entry).at? l =
      if l = [] then some .directory else if l = loc then some entry else fs.at? l := by
  by_cases root : l = []
  · rw [if_pos root, at?, if_pos root]
  · rw [if_neg root, at?, if_neg root, at?, if_neg root, set, Table.find?_insert]

theorem at?_set_of_directory {fs : FileSystem} {loc l : Location} (entry : Entry)
    (file : fs.at? loc ≠ some .directory) (directory : fs.at? l = some .directory) :
    (fs.set loc entry).at? l = some .directory := by
  have other : l ≠ loc := by
    rintro rfl
    exact file directory
  rw [at?_set, if_neg other, directory, ite_self]

theorem at?_new {loc : Location} (below : loc ≠ []) : (new []).at? loc = none := by
  rw [at?, if_neg below]
  rfl

theorem ne_root_of_file {fs : FileSystem} {loc : Location} {content : ByteArray}
    (file : fs.at? loc = some (.file content)) : loc ≠ [] := by
  rintro rfl
  cases file

theorem set_of_at? {fs : FileSystem} {loc : Location} {entry : Entry} (below : loc ≠ [])
    (there : fs.at? loc = some entry) : fs.set loc entry = fs := by
  rw [at?, if_neg below] at there
  rw [set, Table.insert_of_find? there]

theorem set_set (fs : FileSystem) (loc : Location) (first second : Entry) :
    (fs.set loc first).set loc second = fs.set loc second := by
  rw [set, set, Table.insert_insert]
  rfl

section Ways
variable {fs after : FileSystem}

/-- A way leads through directories only, so it is still there as long as they are. -/
theorem walk_of_directories
    (kept : ∀ l, fs.at? l = some .directory → after.at? l = some .directory)
    (names : List String) {l found : Location} (reached : fs.walk l names = .ok found) :
    after.walk l names = .ok found := by
  induction names generalizing l with
  | nil => exact reached
  | cons name rest ih =>
    rw [walk] at reached ⊢
    split at reached
    next => cases reached
    next => cases reached
    next directory =>
      rw [kept l directory]
      simp only
      split at reached
      next up => rw [if_pos up]; exact ih reached
      next down =>
        rw [if_neg down]
        split at reached
        next => cases reached
        next short => rw [if_neg short]; exact ih reached

theorem locate_of_directories (working : after.working = fs.working)
    (kept : ∀ l, fs.at? l = some .directory → after.at? l = some .directory)
    {p : Path} {found : Location} (located : fs.locate p = .ok found) :
    after.locate p = .ok found := by
  unfold locate at located ⊢
  split at located
  next => cases located
  next clean =>
    rw [if_neg clean]
    split at located
    next => cases located
    next short =>
      rw [if_neg short, working]
      exact walk_of_directories kept p.names located

end Ways

theorem fileAt_eq_ok_iff {fs : FileSystem} {p : Path} {loc : Location} :
    fs.fileAt p = .ok loc ↔ fs.locate p = .ok loc ∧ fs.at? loc ≠ some .directory := by
  rw [fileAt]
  cases located : fs.locate p with
  | error e => simp [bind, Except.bind]
  | ok found =>
    simp only [bind, Except.bind]
    split
    next directory =>
      constructor
      · exact fun h => by cases h
      · rintro ⟨same, other⟩
        cases same
        exact absurd directory other
    next other =>
      constructor
      · intro h
        cases h
        exact ⟨rfl, other⟩
      · rintro ⟨same, -⟩
        exact same

theorem withFile_eq_ok {fs after : FileSystem} {p : Path} {content : ByteArray}
    (written : fs.withFile p content = .ok after) :
    ∃ loc, fs.locate p = .ok loc ∧ fs.at? loc ≠ some .directory ∧
      after = fs.set loc (.file content) := by
  rw [withFile] at written
  cases found : fs.fileAt p with
  | error e => rw [found] at written; cases written
  | ok loc =>
    rw [found] at written
    cases written
    obtain ⟨located, file⟩ := fileAt_eq_ok_iff.1 found
    exact ⟨loc, located, file, rfl⟩

theorem withFile_of_located {fs : FileSystem} {p : Path} {loc : Location}
    (located : fs.locate p = .ok loc) (free : fs.at? loc ≠ some .directory) (content : ByteArray) :
    fs.withFile p content = .ok (fs.set loc (.file content)) := by
  rw [withFile, fileAt_eq_ok_iff.2 ⟨located, free⟩]
  rfl

theorem withDirectory_eq_ok {fs after : FileSystem} {p : Path}
    (made : fs.withDirectory p = .ok after) :
    ∃ loc, fs.locate p = .ok loc ∧ fs.at? loc = none ∧ after = fs.set loc .directory := by
  unfold withDirectory at made
  cases located : fs.locate p with
  | error e => rw [located] at made; cases made
  | ok loc =>
    rw [located] at made
    simp only [bind, Except.bind] at made
    split at made
    next => cases made
    next free =>
      cases made
      exact ⟨loc, rfl, free, rfl⟩

theorem withDirectory_of_free {fs : FileSystem} {p : Path} {loc : Location}
    (located : fs.locate p = .ok loc) (free : fs.at? loc = none) :
    fs.withDirectory p = .ok (fs.set loc .directory) := by
  rw [withDirectory, located]
  simp only [bind, Except.bind, free]

theorem withDirectory_of_taken {fs : FileSystem} {p : Path} {loc : Location} {entry : Entry}
    (located : fs.locate p = .ok loc) (taken : fs.at? loc = some entry) :
    fs.withDirectory p = .error .alreadyExists := by
  rw [withDirectory, located]
  simp only [bind, Except.bind, taken]

theorem read_withFile {fs after : FileSystem} {p : Path} {content : ByteArray}
    (written : fs.withFile p content = .ok after) : after.read p = .ok content := by
  obtain ⟨loc, located, file, rfl⟩ := withFile_eq_ok written
  have root : loc ≠ [] := by
    rintro rfl
    exact file rfl
  have working : (fs.set loc (.file content)).working = fs.working := rfl
  have located' : (fs.set loc (.file content)).locate p = .ok loc :=
    locate_of_directories working (fun _ => at?_set_of_directory _ file) located
  rw [read, entry, located']
  simp only [bind, Except.bind]
  rw [at?_set, if_neg root, if_pos rfl]

end DocPages.FileSystem
