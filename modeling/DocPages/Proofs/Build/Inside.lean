import Mathlib.Data.List.Infix
import DocPages.Proofs.Build.Separate
/-! # Routes and the output directory

Neither slashes nor single dots lead a route out of the output directory, double dots can.  The names of
a route lead up by some number of directories and then down (`reach`), and the document lies where that
leads from the output directory.  So it lies in every output directory exactly if no part of the route,
read from its start, has more double dots than other names (`outputPath_inside_iff`). -/
set_option autoImplicit false
namespace DocPages

/-- Some directories up from the start, and down from there. -/
structure Reach where
  up : Nat
  down : List String
  deriving DecidableEq

namespace Reach

def step (r : Reach) (name : String) : Reach :=
  if name ≠ ".." then { r with down := r.down ++ [name] }
  else if r.down = [] then { r with up := r.up + 1 }
  else { r with down := r.down.dropLast }

theorem step_name (r : Reach) {name : String} (other : name ≠ "..") :
    r.step name = ⟨r.up, r.down ++ [name]⟩ := if_pos other

theorem step_above {r : Reach} (bare : r.down = []) : r.step ".." = ⟨r.up + 1, []⟩ := by
  rw [step, if_neg (not_not.2 rfl), if_pos bare, bare]

theorem step_back {r : Reach} (below : r.down ≠ []) : r.step ".." = ⟨r.up, r.down.dropLast⟩ := by
  rw [step, if_neg (not_not.2 rfl), if_neg below]

def applyTo (r : Reach) (loc : Location) : Location := loc.take (loc.length - r.up) ++ r.down

theorem applyTo_step (r : Reach) (name : String) (loc : Location) :
    (r.step name).applyTo loc =
      if name = ".." then (r.applyTo loc).dropLast else r.applyTo loc ++ [name] := by
  unfold applyTo
  split
  next up =>
    subst up
    by_cases bare : r.down = []
    · have lengths : loc.length - (r.up + 1) =
          min (min (loc.length - r.up) loc.length - 1) (loc.length - r.up) := by omega
      rw [step_above bare, bare, List.append_nil, List.append_nil, List.dropLast_eq_take,
        List.length_take, List.take_take, lengths]
    · rw [step_back bare, List.dropLast_append_of_ne_nil bare]
  next other => rw [step_name r other, List.append_assoc]

theorem up_le_step (r : Reach) (name : String) : r.up ≤ (r.step name).up := by
  by_cases up : name = ".."
  · subst up
    by_cases bare : r.down = []
    · rw [step_above bare]
      exact Nat.le_succ _
    · rw [step_back bare]
  · rw [step_name r up]

end Reach

def reach (names : List String) : Reach := names.foldl Reach.step ⟨0, []⟩

/-- No part of the names, read from their start, has more double dots than other names. -/
def StaysBelow (names : List String) : Prop :=
  ∀ before ∈ names.inits, before.count ".." ≤ before.countP (· ≠ "..")

instance (names : List String) : Decidable (StaysBelow names) := by
  unfold StaysBelow
  infer_instance

theorem reach_append_singleton (names : List String) (name : String) :
    reach (names ++ [name]) = (reach names).step name := by
  rw [reach, List.foldl_append]
  rfl

theorem resolve_eq_applyTo (names : List String) (loc : Location) :
    FileSystem.resolve loc names = (reach names).applyTo loc := by
  induction names using List.reverseRecOn with
  | nil =>
    rw [FileSystem.resolve, reach, List.foldl_nil, Reach.applyTo, Nat.sub_zero, List.take_length,
      List.append_nil]
  | append_singleton names name ih =>
    rw [FileSystem.resolve_append, ih, reach_append_singleton, Reach.applyTo_step]
    rw [FileSystem.resolve, FileSystem.resolve, FileSystem.resolve]

/-- Double dots that are not made up for by other names lead up. -/
theorem up_add_countP (names : List String) :
    (reach names).up + names.countP (· ≠ "..") = names.count ".." + (reach names).down.length := by
  induction names using List.reverseRecOn with
  | nil => rfl
  | append_singleton names name ih =>
    rw [reach_append_singleton, List.countP_append, List.count_append]
    by_cases up : name = ".."
    · have counts : [name].countP (· ≠ "..") = 0 ∧ [name].count ".." = 1 := by
        simp [up]
      rw [counts.1, counts.2, up]
      by_cases bare : (reach names).down = []
      · rw [bare, List.length_nil] at ih
        rw [Reach.step_above bare, List.length_nil]
        dsimp only
        omega
      · have pos := List.length_pos_iff.2 bare
        rw [Reach.step_back bare, List.length_dropLast]
        dsimp only
        omega
    · have counts : [name].countP (· ≠ "..") = 1 ∧ [name].count ".." = 0 := by
        simp [up]
      rw [counts.1, counts.2, Reach.step_name _ up, List.length_append, List.length_singleton]
      dsimp only
      omega

theorem up_le_of_append (names more : List String) : (reach names).up ≤ (reach (names ++ more)).up := by
  induction more using List.reverseRecOn with
  | nil => rw [List.append_nil]
  | append_singleton more name ih =>
    rw [← List.append_assoc, reach_append_singleton]
    exact Nat.le_trans ih (Reach.up_le_step _ name)

theorem up_eq_zero_iff (names : List String) : (reach names).up = 0 ↔ StaysBelow names := by
  constructor
  · intro level before mem
    obtain ⟨more, rfl⟩ := (List.mem_inits _ _).1 mem
    have below := up_le_of_append before more
    have counts := up_add_countP before
    omega
  · intro stays
    induction names using List.reverseRecOn with
    | nil => rfl
    | append_singleton names name ih =>
      have level : (reach names).up = 0 := by
        apply ih
        intro before mem
        apply stays before
        rw [List.mem_inits] at mem ⊢
        exact mem.trans (List.prefix_append names [name])
      have counts := up_add_countP (names ++ [name])
      have whole := stays (names ++ [name]) ((List.mem_inits _ _).2 List.prefix_rfl)
      rw [reach_append_singleton] at counts ⊢
      by_cases up : name = ".."
      · subst up
        by_cases bare : (reach names).down = []
        · rw [Reach.step_above bare, List.length_nil] at counts
          dsimp only at counts
          omega
        · rw [Reach.step_back bare]
          exact level
      · rw [Reach.step_name _ up]
        exact level

namespace PageBuild

theorem location_outputPath_eq (b : PageBuild) (working : Location) :
    b.outputPath.location working =
      (reach (Path.namesOf b.page.descriptor.path.toList)).applyTo (b.outputDir.location working) := by
  rw [Path.location, root_outputPath, names_outputPath, FileSystem.resolve_append]
  exact resolve_eq_applyTo _ _

/-- A directory as deep as a route leads up, and none of those that the route leads down to. -/
theorem exists_outside (r : Reach) (up : r.up ≠ 0) :
    ∃ dir : Path, ¬ dir.location [] <+: r.applyTo (dir.location []) := by
  obtain ⟨name, proper, down, other⟩ :
      ∃ name, IsName name.toList ∧ name ≠ ".." ∧ r.down.head? ≠ some name := by
    by_cases taken : r.down.head? = some "a"
    · refine ⟨"b", by decide, by decide, ?_⟩
      rw [taken]
      decide
    · exact ⟨"a", by decide, by decide, taken⟩
  have each : ∀ s ∈ List.replicate r.up name, IsName s.toList := by
    intro s mem
    rwa [List.eq_of_mem_replicate mem]
  refine ⟨⟨.single, List.replicate r.up name, each⟩, ?_⟩
  have place : Path.location ⟨.single, List.replicate r.up name, each⟩ [] =
      List.replicate r.up name := by
    have low : ".." ∉ List.replicate r.up name := fun mem => down (List.eq_of_mem_replicate mem).symm
    exact FileSystem.resolve_of_down [] low
  rw [place, Reach.applyTo, List.length_replicate, Nat.sub_self, List.take_zero, List.nil_append]
  rintro ⟨rest, split⟩
  apply other
  obtain ⟨n, size⟩ := Nat.exists_eq_succ_of_ne_zero up
  rw [← split, size, List.replicate_succ]
  rfl

/-- A document lies where its route leads from the output directory.  That is in the directory,
whatever the directory is, exactly if the route stays below where it starts. -/
theorem outputPath_inside_iff (b : PageBuild) :
    (∀ dir working, ({ b with outputDir := dir }.outputPath).location working =
      (reach (Path.namesOf b.page.descriptor.path.toList)).applyTo (dir.location working)) ∧
    ((∀ dir working, dir.location working <+:
        ({ b with outputDir := dir }.outputPath).location working) ↔
      StaysBelow (Path.namesOf b.page.descriptor.path.toList)) := by
  have places := fun dir working => location_outputPath_eq { b with outputDir := dir } working
  refine ⟨places, ?_⟩
  rw [← up_eq_zero_iff]
  constructor
  · intro inside
    by_contra up
    obtain ⟨dir, left⟩ := exists_outside _ up
    have within := inside dir []
    rw [places] at within
    exact left within
  · intro level dir working
    rw [places, Reach.applyTo]
    dsimp only
    rw [level, Nat.sub_zero, List.take_length]
    exact List.prefix_append _ _

/-- A route that starts with double dots leaves the output directory. -/
theorem outputPath_outside :
    let b := { blank "k" "/../x.html" with outputDir := .ofString "public" }
    b.outputDir.location ["work"] = ["work", "public"] ∧
      b.outputPath.location ["work"] = ["work", "x.html"] ∧
      ¬ b.outputDir.location ["work"] <+: b.outputPath.location ["work"] := by
  decide +kernel

end PageBuild
end DocPages
