import DocPages.Proofs.FileSystem.Frame
import DocPages.Proofs.Path.Names
/-! # Files and their directories

A path leads somewhere only if its parent leads to a directory (`locate_parent`), and a short name
below a directory leads to what the directory holds under it (`locate_name`).  So it depends on its
directory alone whether a file can be written under a usable name. -/
set_option autoImplicit false
namespace DocPages

namespace Path

theorem size_toString_parent_le (p : Path) :
    p.parent.toString.utf8ByteSize ≤ p.toString.utf8ByteSize := by
  rcases List.eq_nil_or_concat p.names with bare | ⟨init, last, split⟩
  · have same : p.parent = p := eq_of_names rfl (by rw [names_parent, bare]; rfl)
    exact Nat.le_of_eq (by rw [same])
  · rw [List.concat_eq_append] at split
    have names : p.parent.names = init := by rw [names_parent, split, List.dropLast_concat]
    have whole : p.toString = Root.text p.root ++ String.intercalate "/" (init ++ [last]) := by
      rw [toString, if_neg (by simp [split]), split]
    have nonempty : 1 ≤ last.utf8ByteSize := by
      have proper := p.isName last (by simp [split])
      rw [Nat.one_le_iff_ne_zero, Ne, String.utf8ByteSize_eq_zero_iff]
      rintro rfl
      exact proper.1 rfl
    rw [whole, toString, root_parent, names, String.utf8ByteSize_append]
    split
    next nowhere =>
      rw [nowhere.1, nowhere.2, List.nil_append, String.intercalate_singleton]
      exact Nat.le_add_left_of_le nonempty
    next =>
      rw [String.utf8ByteSize_append]
      apply Nat.add_le_add_left
      by_cases top : init = []
      · rw [top, String.intercalate_nil]
        exact Nat.zero_le _
      · rw [String.intercalate_append_of_ne_nil top (by simp), String.utf8ByteSize_append,
          String.utf8ByteSize_append, Nat.add_assoc]
        exact Nat.le_add_right _ _

end Path

namespace FileSystem
variable {fs : FileSystem} {p : Path} {loc : Location}

theorem walk_append (fs : FileSystem) (names more : List String) (l : Location) :
    fs.walk l (names ++ more) = (fs.walk l names >>= fun l' => fs.walk l' more) := by
  induction names generalizing l with
  | nil => rfl
  | cons name names ih =>
    rw [List.cons_append, walk, walk]
    cases fs.at? l with
    | none => rfl
    | some e =>
      cases e with
      | file content => rfl
      | directory =>
        dsimp only
        split
        · exact ih _
        · split
          · rfl
          · exact ih _

theorem walk_of_absent {l : Location} {name next : String} {rest : List String}
    (directory : fs.at? l = some .directory) (down : name ≠ "..")
    (short : name.utf8ByteSize ≤ maxNameBytes) (absent : fs.at? (l ++ [name]) = none) :
    fs.walk l (name :: next :: rest) = .error .missing := by
  rw [walk, directory]
  simp only
  rw [if_neg down, if_neg (Nat.not_lt.2 short), walk, absent]

theorem locate_eq_walk (clean : ∀ name ∈ p.names, '\x00' ∉ name.toList)
    (short : p.toString.utf8ByteSize ≤ maxPathBytes) :
    fs.locate p = fs.walk (if p.root = .none then fs.working else []) p.names := by
  have none : (p.names.any fun name => name.toList.contains '\x00') = false := by
    simpa using clean
  rw [locate, none, if_neg Bool.false_ne_true, if_neg (Nat.not_lt.2 short)]

theorem locate_eq_ok (located : fs.locate p = .ok loc) :
    (∀ name ∈ p.names, '\x00' ∉ name.toList) ∧ p.toString.utf8ByteSize ≤ maxPathBytes ∧
      fs.walk (if p.root = .none then fs.working else []) p.names = .ok loc := by
  unfold locate at located
  split at located
  next => cases located
  next clean =>
    split at located
    next => cases located
    next short =>
      refine ⟨?_, Nat.not_lt.1 short, located⟩
      simpa using clean

theorem locate_parent (located : fs.locate p = .ok loc) (named : p.names ≠ []) :
    ∃ l, fs.locate p.parent = .ok l ∧ fs.at? l = some .directory := by
  obtain ⟨clean, short, reached⟩ := locate_eq_ok located
  rw [← List.dropLast_concat_getLast named, walk_append] at reached
  have above : fs.locate p.parent = fs.walk (if p.root = .none then fs.working else [])
      p.names.dropLast :=
    locate_eq_walk (fun name mem => clean name ((List.dropLast_sublist _).subset mem))
      (Nat.le_trans p.size_toString_parent_le short)
  rw [above]
  cases outer : fs.walk (if p.root = .none then fs.working else []) p.names.dropLast with
  | error e =>
    rw [outer] at reached
    cases reached
  | ok l =>
    rw [outer] at reached
    refine ⟨l, rfl, ?_⟩
    simp only [bind, Except.bind, walk] at reached
    split at reached
    next => cases reached
    next => cases reached
    next directory => exact directory

theorem locate_name {base : Path} {name : String} (root : p.root = base.root)
    (names : p.names = base.names ++ [name]) (there : fs.locate base = .ok loc)
    (directory : fs.at? loc = some .directory) (down : name ≠ "..") (clean : '\x00' ∉ name.toList)
    (short : name.utf8ByteSize ≤ maxNameBytes) (shortPath : p.toString.utf8ByteSize ≤ maxPathBytes) :
    fs.locate p = .ok (loc ++ [name]) := by
  obtain ⟨cleanBase, _, reached⟩ := locate_eq_ok there
  have cleanNames : ∀ n ∈ p.names, '\x00' ∉ n.toList := by
    rw [names]
    simp only [List.mem_append, List.mem_singleton]
    rintro n (mem | rfl)
    · exact cleanBase n mem
    · exact clean
  rw [locate_eq_walk cleanNames shortPath, root, names, walk_append, reached]
  simp only [bind, Except.bind, walk, directory, if_neg down, if_neg (Nat.not_lt.2 short)]

theorem fileAt_of_absent {name next : String} {rest : List String} (working : fs.working = [])
    (names : p.names = name :: next :: rest) (down : name ≠ "..")
    (clean : ∀ name ∈ p.names, '\x00' ∉ name.toList) (short : name.utf8ByteSize ≤ maxNameBytes)
    (shortPath : p.toString.utf8ByteSize ≤ maxPathBytes) (absent : fs.at? [name] = none) :
    fs.fileAt p = .error .missing := by
  have located : fs.locate p = .error .missing := by
    rw [locate_eq_walk clean shortPath, working, ite_self, names]
    exact walk_of_absent rfl down short absent
  rw [fileAt, located]
  rfl

end FileSystem
end DocPages
