import DocPages.Command.Run
import DocPages.Proofs.FileSystem.Frame
import DocPages.Proofs.Path.Names
/-! # Reported paths

A path is reported by its names below the working directory if it has such, and as it stands otherwise.
Either way it is read back as it was written (`ofString_toString`), and what is read leads from the
working directory to where the path itself leads (`report_leads_back`).  Only names count: a directory
whose name begins like that of the working directory is another one, and double dots may follow. -/
set_option autoImplicit false
namespace DocPages

namespace Path

/-! ## Paths that are written and read -/

theorem rootOf_of_none {cs : List Char} (other : cs.head? ≠ some '/') : rootOf cs = .none := by
  cases cs with
  | nil => rfl
  | cons c cs => exact rootOf_cons_of_ne cs fun same => other (by rw [same]; rfl)

theorem rootOf_slash {cs : List Char} (other : cs.head? ≠ some '/') : rootOf ('/' :: cs) = .single := by
  cases cs with
  | nil => rfl
  | cons c cs =>
    have plain : c ≠ '/' := fun same => other (by rw [same]; rfl)
    rw [rootOf]
    · exact fun _ same => plain (List.cons.inj same).1
    · exact fun _ same => plain (List.cons.inj same).1

theorem rootOf_slashes {cs : List Char} (other : cs.head? ≠ some '/') :
    rootOf ('/' :: '/' :: cs) = .double := by
  rw [rootOf]
  exact fun _ same => other (by rw [same]; rfl)

theorem head?_intercalate {names : List String} (h : ∀ name ∈ names, IsName name.toList) :
    (String.intercalate "/" names).toList.head? ≠ some '/' := by
  cases names with
  | nil => simp
  | cons name rest =>
    obtain ⟨nonempty, _, whole⟩ := h name List.mem_cons_self
    obtain ⟨c, cs, chars⟩ := List.exists_cons_of_ne_nil nonempty
    have plain : c ≠ '/' := by
      rintro rfl
      rw [chars] at whole
      exact whole List.mem_cons_self
    have first : (String.intercalate "/" (name :: rest)).toList.head? = some c := by
      cases rest with
      | nil => rw [String.intercalate_singleton, chars, List.head?_cons]
      | cons next rest =>
        rw [String.intercalate_cons_cons, String.toList_append, String.toList_append, chars]
        rfl
    rw [first]
    simpa using plain

theorem ofString_toString (p : Path) : ofString p.toString = p := by
  have names := namesOf_intercalate p.isName
  have start := head?_intercalate p.isName
  apply eq_of_names
  case root =>
    rw [root_ofString, toString]
    split
    next nowhere =>
      rw [nowhere.1]
      rfl
    next =>
      rw [String.toList_append]
      cases p.root with
      | none => exact rootOf_of_none start
      | single => exact rootOf_slash start
      | double => exact rootOf_slashes start
  case names =>
    rw [names_ofString, toString]
    split
    next nowhere =>
      rw [nowhere.2]
      rfl
    next =>
      rw [String.toList_append]
      cases p.root with
      | none => exact names
      | single => exact (namesOf_cons_slash _).trans names
      | double => exact (namesOf_cons_slash _).trans ((namesOf_cons_slash _).trans names)

/-! ## Paths below a directory -/

section Below
variable {p base rest : Path}

theorem relativeTo?_eq_some_iff : p.relativeTo? base = some rest ↔
    p.root = base.root ∧ rest.root = .none ∧ p.names = base.names ++ rest.names := by
  unfold relativeTo?
  constructor
  · intro found
    split at found
    next below =>
      cases found
      obtain ⟨more, split⟩ := below.2
      refine ⟨below.1, rfl, ?_⟩
      dsimp only
      rw [← split, List.drop_left]
    next => cases found
  · rintro ⟨root, relative, split⟩
    rw [if_pos ⟨root, split ▸ List.prefix_append _ _⟩, Option.some.injEq]
    apply eq_of_names
    case root => exact relative.symm
    case names =>
      dsimp only
      rw [split, List.drop_left]

theorem relativeTo?_eq_none_iff : p.relativeTo? base = none ↔
    ¬(p.root = base.root ∧ base.names <+: p.names) := by
  simp [relativeTo?]

theorem join_of_relativeTo? (found : p.relativeTo? base = some rest) : base.join rest = p := by
  obtain ⟨root, relative, split⟩ := relativeTo?_eq_some_iff.1 found
  apply eq_of_names
  case root => rw [root_join relative, root]
  case names => rw [names_join relative, split]

theorem join_of_absolute (absolute : p.root ≠ .none) : base.join p = p := by
  rw [join, if_neg absolute]

end Below

/-! ## Reports -/

section Reports
variable {p : Path} (working : Path)

theorem display_cases (p working : Path) :
    (p.display working = p ∧
      (p.root = .none ∨ ¬(p.root = working.root ∧ working.names <+: p.names))) ∨
    (p.root ≠ .none ∧ p.relativeTo? working = some (p.display working)) := by
  unfold display
  split
  next relative => exact Or.inl ⟨rfl, Or.inl relative⟩
  next absolute =>
    cases found : p.relativeTo? working with
    | none => exact Or.inl ⟨rfl, Or.inr (relativeTo?_eq_none_iff.1 found)⟩
    | some rest => exact Or.inr ⟨absolute, rfl⟩

theorem join_display (p working : Path) : working.join (p.display working) = working.join p := by
  rcases display_cases p working with ⟨same, _⟩ | ⟨absolute, below⟩
  · rw [same]
  · rw [join_of_relativeTo? below, join_of_absolute absolute]

theorem root_display_eq_none_iff (p working : Path) : (p.display working).root = .none ↔
    p.root = .none ∨ (p.root = working.root ∧ working.names <+: p.names) := by
  rcases display_cases p working with ⟨same, apart⟩ | ⟨_, below⟩
  · rw [same, or_iff_left_of_imp]
    intro below
    exact apart.resolve_right fun other => other below
  · obtain ⟨root, relative, split⟩ := relativeTo?_eq_some_iff.1 below
    exact iff_of_true relative (Or.inr ⟨root, split ▸ List.prefix_append _ _⟩)

/-- An absolute path is known from its report. -/
theorem eq_of_display_eq {p q working : Path} (absolute : p.root ≠ .none) (absolute' : q.root ≠ .none)
    (same : p.display working = q.display working) : p = q := by
  have joined := join_display p working
  rwa [same, join_display, join_of_absolute absolute', join_of_absolute absolute, eq_comm] at joined

theorem location_display {p working : Path} (level : ".." ∉ working.names) :
    (p.display working).location working.names = p.location working.names := by
  rcases display_cases p working with ⟨same, _⟩ | ⟨absolute', below⟩
  · rw [same]
  · obtain ⟨_, relative, split⟩ := relativeTo?_eq_some_iff.1 below
    rw [location, location, if_pos relative, if_neg absolute', split, FileSystem.resolve_append,
      FileSystem.resolve_of_down [] level, List.nil_append]

end Reports

end Path

namespace Command

/-- Reading a report gives a path that leads from the working directory where the reported one leads,
by its names and in the files.  It is relative exactly if the reported path is or has the names of the
working directory in front, and different absolute paths have different reports. -/
theorem report_leads_back (working : Path) (level : ".." ∉ working.names) (p : Path) :
    let read := Path.ofString (p.display working).toString
    writtenLine p working = "wrote " ++ read.toString ∧
    working.join read = working.join p ∧
    read.location working.names = p.location working.names ∧
    (read.root = .none ↔ p.root = .none ∨ (p.root = working.root ∧ working.names <+: p.names)) ∧
    (p.root ≠ .none → ∀ q : Path, q.root ≠ .none → q ≠ p →
      writtenLine q working ≠ writtenLine p working) := by
  intro read
  have reads : read = p.display working := Path.ofString_toString _
  rw [reads]
  refine ⟨rfl, Path.join_display p working, Path.location_display level,
    Path.root_display_eq_none_iff p working, ?_⟩
  intro absoluteP q absoluteQ other alike
  have texts := (String.append_right_inj _).1 alike
  have displays := congrArg Path.ofString texts
  rw [Path.ofString_toString, Path.ofString_toString] at displays
  exact other (Path.eq_of_display_eq absoluteQ absoluteP displays)

/-- A path that leads through the working directory and out of it again, one with the same names under
the other root, and the directory beside it whose name begins alike. -/
theorem report_leads_back_detour :
    let working := Path.ofString "/w/d"
    let p := Path.ofString "/w/d/../x.html"
    let q := Path.ofString "//w/d/../x.html"
    let beside := Path.ofString "/w/dd/x.html"
    ".." ∉ working.names ∧ p.root ≠ .none ∧ q.root ≠ .none ∧ q ≠ p ∧
      (p.display working).toString = "../x.html" ∧ (q.display working).toString = "//w/d/../x.html" ∧
      (beside.display working).toString = "/w/dd/x.html" ∧
      working.join (.ofString "../x.html") = p ∧
      (Path.ofString "../x.html").location ["w", "d"] = p.location ["w", "d"] ∧
      writtenLine q working ≠ writtenLine p working := by
  intro working p q beside
  have level : ".." ∉ working.names := by decide +kernel
  have absoluteP : p.root ≠ .none := by decide +kernel
  have absoluteQ : q.root ≠ .none := by decide +kernel
  have other : q ≠ p := by decide +kernel
  have text : (p.display working).toString = "../x.html" := by decide +kernel
  obtain ⟨_, joined, located, _, apart⟩ := report_leads_back working level p
  rw [text] at joined located
  exact ⟨level, absoluteP, absoluteQ, other, text, by decide +kernel, by decide +kernel,
    joined.trans (Path.join_of_absolute absoluteP), located, apart absoluteP q absoluteQ other⟩

end Command
end DocPages
