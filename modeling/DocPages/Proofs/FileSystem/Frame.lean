import DocPages.Device
import DocPages.Proofs.Action
import DocPages.Proofs.FileSystem.Write
/-! # What operations leave alone

Making directories changes no file, and writing a file changes none but the one at its location
(`Frame`).  What one directory keeps, all that are made for a path keep (`makeDirectories_induction`).
The location of a path depends on the path and the working directory only, since the way to it is made
of directories that are there (`locate_eq_location`).  So after any number of writes a file holds what
was written last to its location (`Wrote.read_last`). -/
set_option autoImplicit false
namespace DocPages

namespace FileSystem

/-- Where names lead from a location, if there is a directory at every step. -/
def resolve : Location → List String → Location
  | loc, [] => loc
  | loc, name :: rest =>
    if name = ".." then resolve loc.dropLast rest else resolve (loc ++ [name]) rest

theorem resolve_append (loc : Location) (names more : List String) :
    resolve loc (names ++ more) = resolve (resolve loc names) more := by
  induction names generalizing loc with
  | nil => rfl
  | cons name names ih =>
    rw [List.cons_append, resolve, resolve]
    split
    · exact ih loc.dropLast
    · exact ih (loc ++ [name])

theorem resolve_of_down (loc : Location) {names : List String} (down : ".." ∉ names) :
    resolve loc names = loc ++ names := by
  induction names generalizing loc with
  | nil => rw [resolve, List.append_nil]
  | cons name names ih =>
    rw [List.mem_cons, not_or] at down
    rw [resolve, if_neg (Ne.symm down.1), ih (loc ++ [name]) down.2, List.append_assoc]
    rfl

theorem walk_eq_resolve {fs : FileSystem} (names : List String) {l found : Location}
    (reached : fs.walk l names = .ok found) : found = resolve l names := by
  induction names generalizing l with
  | nil =>
    cases reached
    rfl
  | cons name rest ih =>
    rw [walk] at reached
    rw [resolve]
    split at reached
    next => cases reached
    next => cases reached
    next =>
      split at reached
      next up => rw [if_pos up]; exact ih reached
      next down =>
        rw [if_neg down]
        split at reached
        next => cases reached
        next => exact ih reached

end FileSystem

/-- The location that a path leads to from a working directory, wherever it leads to one. -/
def Path.location (p : Path) (working : Location) : Location :=
  FileSystem.resolve (if p.root = .none then working else []) p.names

theorem Path.location_of_down {p base : Path} {names : List String} (root : p.root = base.root)
    (below : p.names = base.names ++ names) (down : ".." ∉ names) (working : Location) :
    p.location working = base.location working ++ names := by
  rw [location, location, root, below, FileSystem.resolve_append, FileSystem.resolve_of_down _ down]

namespace FileSystem

theorem locate_eq_location {fs : FileSystem} {p : Path} {found : Location}
    (located : fs.locate p = .ok found) : found = p.location fs.working := by
  unfold locate at located
  split at located
  next => cases located
  next =>
    split at located
    next => cases located
    next => exact walk_eq_resolve p.names located

theorem read_eq_ok_iff {fs : FileSystem} {p : Path} {content : ByteArray} :
    fs.read p = .ok content ↔ ∃ loc, fs.locate p = .ok loc ∧ fs.at? loc = some (.file content) := by
  rw [read, entry]
  cases located : fs.locate p with
  | error e => simp [bind, Except.bind]
  | ok loc =>
    cases found : fs.at? loc with
    | none => simp [bind, Except.bind, found]
    | some e => cases e <;> simp [bind, Except.bind, found]

/-- From one file system to a later one nothing but the files at the written locations differs, apart
from directories that are new. -/
structure Frame (written : List Location) (before after : FileSystem) : Prop where
  working : after.working = before.working
  directories : ∀ l, before.at? l = some .directory → after.at? l = some .directory
  files : ∀ l content, l ∉ written →
    (after.at? l = some (.file content) ↔ before.at? l = some (.file content))

namespace Frame
variable {written more : List Location} {before middle after : FileSystem}

theorem refl (fs : FileSystem) : Frame [] fs fs :=
  ⟨rfl, fun _ h => h, fun _ _ _ => Iff.rfl⟩

theorem trans (first : Frame written before middle) (second : Frame more middle after) :
    Frame (written ++ more) before after where
  working := second.working.trans first.working
  directories := fun l h => second.directories l (first.directories l h)
  files := fun l content other => by
    rw [List.mem_append, not_or] at other
    exact (second.files l content other.2).trans (first.files l content other.1)

theorem setDirectory {loc : Location} (free : before.at? loc = none) :
    Frame [] before (before.set loc .directory) where
  working := rfl
  directories := fun l directory =>
    at?_set_of_directory _ (by simp [free]) directory
  files := fun l content _ => by
    rw [at?_set]
    split
    next root => simp [root, at?]
    next =>
      split
      next same => simp [same, free]
      next => rfl

theorem setFile {loc : Location} {content : ByteArray} (file : before.at? loc ≠ some .directory) :
    Frame [loc] before (before.set loc (.file content)) where
  working := rfl
  directories := fun l directory => at?_set_of_directory _ file directory
  files := fun l content' other => by
    rw [List.mem_singleton] at other
    rw [at?_set, if_neg other]
    split
    next root => simp [root, at?]
    next => rfl

theorem locate (frame : Frame written before after) {p : Path} {loc : Location}
    (located : before.locate p = .ok loc) : after.locate p = .ok loc :=
  locate_of_directories frame.working frame.directories located

theorem read (frame : Frame written before after) {p : Path} {content : ByteArray}
    (reads : before.read p = .ok content) (other : p.location before.working ∉ written) :
    after.read p = .ok content := by
  obtain ⟨loc, located, file⟩ := read_eq_ok_iff.1 reads
  rw [← locate_eq_location located] at other
  exact read_eq_ok_iff.2 ⟨loc, frame.locate located, (frame.files loc content other).2 file⟩

theorem withDirectory {p : Path} (made : before.withDirectory p = .ok after) :
    Frame [] before after := by
  obtain ⟨loc, _, free, rfl⟩ := withDirectory_eq_ok made
  exact setDirectory free

theorem withFile {p : Path} {content : ByteArray} (made : before.withFile p content = .ok after) :
    Frame [p.location before.working] before after := by
  obtain ⟨loc, located, file, rfl⟩ := withFile_eq_ok made
  rw [← locate_eq_location located]
  exact setFile file

end Frame

end FileSystem

/-! ## Making directories -/

namespace Device
variable {ε : Type} (w : Device ε)

theorem makeLast_cases (p : Path) (fs : FileSystem) :
    (∃ after, fs.withDirectory p = .ok after ∧ w.makeLast p fs = (.ok (), after)) ∨
    (fs.isDirectory p = true ∧ w.makeLast p fs = (.ok (), fs)) ∨
    ∃ e, fs.isDirectory p = false ∧ w.makeLast p fs = (.error e, fs) := by
  unfold makeLast
  cases there : fs.isDirectory p with
  | true =>
    cases w.refusesDirectory fs p with
    | some e => exact Or.inr (Or.inl ⟨rfl, rfl⟩)
    | none =>
      cases made : fs.withDirectory p with
      | ok after => exact Or.inl ⟨after, rfl, rfl⟩
      | error e => exact Or.inr (Or.inl ⟨rfl, rfl⟩)
  | false =>
    cases w.refusesDirectory fs p with
    | some e => exact Or.inr (Or.inr ⟨e, rfl, rfl⟩)
    | none =>
      cases made : fs.withDirectory p with
      | ok after => exact Or.inl ⟨after, rfl, rfl⟩
      | error e => exact Or.inr (Or.inr ⟨w.told e, rfl, rfl⟩)

/-- Directories are made one by one: the last one only, or those for the parent before it. -/
theorem makeDirectories_induction
    {motive : Path → FileSystem → Except ε Unit × FileSystem → Prop}
    (last : ∀ p fs, motive p fs (w.makeLast p fs))
    (stopped : ∀ p fs e after, p.names ≠ [] → motive p.parent fs (.error e, after) →
      motive p fs (.error e, after))
    (next : ∀ p fs made, p.names ≠ [] → motive p.parent fs (.ok (), made) →
      motive p fs (w.makeLast p made))
    (p : Path) (fs : FileSystem) : motive p fs (w.makeDirectories p fs) := by
  induction size : p.names.length using Nat.strongRecOn generalizing p fs with
  | ind n ih =>
    rw [makeDirectories]
    split
    next lacks =>
      have shorter : p.parent.names.length < n := by
        rw [Path.parent, List.length_dropLast, size]
        exact Nat.sub_one_lt_of_lt (size ▸ List.length_pos_iff.2 lacks.1)
      have above := ih _ shorter p.parent fs rfl
      rcases ran : w.makeDirectories p.parent fs with ⟨e | _, made⟩
      · rw [ran] at above
        rw [Action.bind_of_error ran]
        exact stopped p fs e made lacks.1 above
      · rw [ran] at above
        rw [Action.bind_of_ok ran]
        exact next p fs made lacks.1 above
    next => exact last p fs

end Device

namespace FileSystem

theorem frame_makeLast {ε : Type} (w : Device ε) (p : Path) (fs : FileSystem) :
    Frame [] fs (w.makeLast p fs).2 := by
  rcases w.makeLast_cases p fs with ⟨after, made, ran⟩ | ⟨_, ran⟩ | ⟨e, _, ran⟩
  · rw [ran]
    exact Frame.withDirectory made
  · rw [ran]
    exact Frame.refl fs
  · rw [ran]
    exact Frame.refl fs

theorem frame_makeDirectories {ε : Type} (w : Device ε) (p : Path) (fs : FileSystem) :
    Frame [] fs (w.makeDirectories p fs).2 := by
  refine w.makeDirectories_induction (motive := fun _ fs made => Frame [] fs made.2)
    (frame_makeLast w) ?stopped ?next p fs
  case stopped => exact fun _ _ _ _ _ above => above
  case next => exact fun p _ made _ above => above.trans (frame_makeLast w p made)

theorem frame_of_makeDirectories {ε : Type} {w : Device ε} {p : Path} {fs made : FileSystem}
    {result : Except ε Unit} (ran : w.makeDirectories p fs = (result, made)) : Frame [] fs made := by
  have frame := frame_makeDirectories w p fs
  rwa [ran] at frame

/-! ## Many writes -/

/-- From one file system to a later one directories were made and these texts written to these paths,
in this order. -/
inductive Wrote : FileSystem → List (Path × String) → FileSystem → Prop
  | nothing (fs : FileSystem) : Wrote fs [] fs
  | directories {fs middle after : FileSystem} {p : Path} {texts : List (Path × String)}
      (made : Disk.makeDirectories p fs = (.ok (), middle)) (rest : Wrote middle texts after) :
      Wrote fs texts after
  | file {fs middle after : FileSystem} {p : Path} {text : String} {texts : List (Path × String)}
      (written : fs.withFile p text.toUTF8 = .ok middle) (rest : Wrote middle texts after) :
      Wrote fs ((p, text) :: texts) after

namespace Wrote
variable {fs middle after : FileSystem} {texts more : List (Path × String)}

theorem append (first : Wrote fs texts middle) (second : Wrote middle more after) :
    Wrote fs (texts ++ more) after := by
  induction first with
  | nothing => exact second
  | directories made _ ih => exact .directories made (ih second)
  | file written _ ih => exact .file written (ih second)

theorem frame (h : Wrote fs texts after) :
    Frame (texts.map fun w => w.1.location fs.working) fs after := by
  induction h with
  | nothing fs => exact Frame.refl fs
  | @directories fs _ _ p _ made _ ih =>
    have first := frame_of_makeDirectories made
    rw [first.working] at ih
    exact first.trans ih
  | file written _ ih =>
    have first := Frame.withFile written
    rw [first.working] at ih
    exact first.trans ih

theorem locate (h : Wrote fs texts after) {w : Path × String} (mem : w ∈ texts) :
    after.locate w.1 = .ok (w.1.location fs.working) := by
  induction h with
  | nothing => cases mem
  | @directories fs _ _ p _ made _ ih =>
    have first := frame_of_makeDirectories made
    rw [← first.working]
    exact ih mem
  | file written rest ih =>
    have first := Frame.withFile written
    rcases List.mem_cons.1 mem with rfl | later
    · obtain ⟨loc, located, _, _⟩ := withFile_eq_ok written
      have here := rest.frame.locate (first.locate located)
      rwa [locate_eq_location located] at here
    · rw [← first.working]
      exact ih later

/-- A file holds what was written last to its location, by whatever path it is read. -/
theorem read_last {before later : List (Path × String)} {q : Path} {text : String}
    (h : Wrote fs (before ++ (q, text) :: later) after)
    (last : ∀ w ∈ later, w.1.location fs.working ≠ q.location fs.working) {p : Path}
    (located : after.locate p = .ok (q.location fs.working)) : after.read p = .ok text.toUTF8 := by
  generalize written : before ++ (q, text) :: later = texts at h
  induction h generalizing before with
  | nothing => cases before <;> cases written
  | @directories fs _ _ p _ made _ ih =>
    have first := frame_of_makeDirectories made
    rw [← first.working] at last located
    exact ih last located written
  | @file _ middle _ _ _ _ here rest ih =>
    have first := Frame.withFile here
    rw [← first.working] at last located
    cases before with
    | nil =>
      cases written
      have other : q.location middle.working ∉
          later.map fun w => w.1.location middle.working := by
        intro mem
        obtain ⟨w, mem, same⟩ := List.mem_map.1 mem
        exact last w mem same
      obtain ⟨loc, located', file⟩ := read_eq_ok_iff.1 (rest.frame.read (read_withFile here) other)
      have same := locate_eq_location located'
      rw [rest.frame.working] at same
      rw [same] at file
      exact read_eq_ok_iff.2 ⟨_, located, file⟩
    | cons w before =>
      cases written
      exact ih last located rfl

theorem read_of_nodup (h : Wrote fs texts after)
    (distinct : (texts.map fun w => w.1.location fs.working).Nodup) {w : Path × String}
    (mem : w ∈ texts) : after.read w.1 = .ok w.2.toUTF8 := by
  have located := h.locate mem
  obtain ⟨before, later, rfl⟩ := List.append_of_mem mem
  rw [List.map_append, List.map_cons] at distinct
  have apart := (List.nodup_cons.1 (List.nodup_append.1 distinct).2.1).1
  refine h.read_last (fun w' mem' same => apart ?_) located
  rw [← same]
  exact List.mem_map_of_mem mem'

end Wrote

end FileSystem
end DocPages
