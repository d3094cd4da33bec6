import DocPages.Context
/-! # A context is its registration log

Nothing is ever taken out of a context, so it is known from the list of all registrations so far.  The
first registration of a name gives the name its place, the latest gives it its component (`Follows`).
So the calls on a context can be answered from that log alone (`follows_registrations`). -/
set_option autoImplicit false
namespace DocPages.Context

/-- A component and the name that it was registered with, if one was given. -/
structure Registration where
  component : Component
  given : Option String

def Registration.name (r : Registration) : String := effectiveName r.component r.given

def enter (context : Context) (r : Registration) : Context := context.register r.component r.given

abbrev Log := List Registration

namespace Log

/-- The distinct names, each at the place of its first registration. -/
def names (log : Log) : List String := (log.map Registration.name).eraseDups

def latest? (log : Log) (name : String) : Option Registration :=
  log.reverse.find? fun r => r.name == name

def resolve (log : Log) (name : String) : Except ResolutionError Component :=
  match log.latest? name with
  | some r => .ok r.component
  | none => .error ⟨name, log.names⟩

theorem names_append_singleton (log : Log) (r : Registration) :
    names (log ++ [r]) = if r.name ∈ log.names then log.names else log.names ++ [r.name] := by
  unfold names
  rw [List.map_append, List.eraseDups_append]
  by_cases known : r.name ∈ log.map Registration.name
  · have gone : ([r].map Registration.name).removeAll (log.map Registration.name) = [] := by
      simpa [List.removeAll] using known
    rw [if_pos (List.mem_eraseDups.2 known), gone]
    exact List.append_nil _
  · have kept : ([r].map Registration.name).removeAll (log.map Registration.name) = [r.name] := by
      simpa [List.removeAll] using known
    rw [if_neg (mt List.mem_eraseDups.1 known), kept]
    rfl

theorem latest?_append_singleton (log : Log) (r : Registration) (name : String) :
    latest? (log ++ [r]) name = if name = r.name then some r else log.latest? name := by
  rw [latest?, List.reverse_append, List.reverse_singleton, List.singleton_append, List.find?_cons]
  by_cases same : name = r.name
  · subst same
    simp
  · have other : (r.name == name) = false := by simpa using Ne.symm same
    rw [other, if_neg same]
    rfl

theorem latest?_eq_some_iff {log : Log} {name : String} {r : Registration} :
    log.latest? name = some r ↔ r.name = name ∧
      ∃ before after, log = before ++ r :: after ∧ ∀ q ∈ after, q.name ≠ name := by
  rw [latest?, List.find?_eq_some_iff_append]
  constructor
  · rintro ⟨same, after, before, split, other⟩
    refine ⟨by simpa using same, before.reverse, after.reverse, ?_, ?_⟩
    · have turned := congrArg List.reverse split
      rw [List.reverse_reverse, List.reverse_append, List.reverse_cons, List.append_assoc] at turned
      exact turned
    · intro q mem
      simpa using other q (List.mem_reverse.1 mem)
  · rintro ⟨same, before, after, split, other⟩
    refine ⟨by simpa using same, after.reverse, before.reverse, ?_, ?_⟩
    · rw [split, List.reverse_append, List.reverse_cons, List.append_assoc]
      rfl
    · intro q mem
      simpa using other q (List.mem_reverse.1 mem)

theorem latest?_eq_none_iff {log : Log} {name : String} :
    log.latest? name = none ↔ ∀ r ∈ log, r.name ≠ name := by
  simp [latest?]

end Log

/-- A context has the names and the components of a log. -/
structure Follows (context : Context) (log : Log) : Prop where
  names : context.names = log.names
  component : ∀ name, context.components.find? name = (log.latest? name).map Registration.component

namespace Follows
variable {context : Context} {log : Log}

theorem empty : Follows Context.empty [] := ⟨rfl, fun _ => rfl⟩

theorem enter (h : Follows context log) (r : Registration) :
    Follows (context.enter r) (log ++ [r]) := by
  constructor
  case names =>
    rw [Log.names_append_singleton, ← h.names]
    exact Table.keys_insert _ _ _
  case component =>
    intro name
    have read : (context.enter r).components.find? name =
        if name = r.name then some r.component else context.components.find? name :=
      Table.find?_insert _ _ _ _
    rw [read, h.component, Log.latest?_append_singleton]
    split <;> rfl

theorem ofComponents (components : List Component) :
    Follows (Context.ofComponents components) (components.map (⟨·, none⟩)) := by
  have from_any : ∀ (context : Context) (log : Log), Follows context log →
      Follows (components.foldl (fun context c => context.register c none) context)
        (log ++ components.map (⟨·, none⟩)) := by
    induction components with
    | nil =>
      intro context log h
      rw [List.map_nil, List.append_nil]
      exact h
    | cons c components ih =>
      intro context log h
      have rest := ih _ _ (h.enter ⟨c, none⟩)
      rw [List.append_assoc] at rest
      exact rest
  exact from_any Context.empty [] empty

theorem resolve_eq (h : Follows context log) (name : String) :
    context.resolve name = log.resolve name := by
  rw [Context.resolve, Log.resolve, h.component, h.names]
  cases log.latest? name <;> rfl

theorem resolve_eq_ok_iff (h : Follows context log) (name : String) (c : Component) :
    context.resolve name = .ok c ↔ ∃ before r after, log = before ++ r :: after ∧ r.name = name ∧
      r.component = c ∧ ∀ q ∈ after, q.name ≠ name := by
  rw [h.resolve_eq, Log.resolve]
  constructor
  · intro found
    split at found
    next r latest =>
      cases found
      obtain ⟨same, before, after, split, other⟩ := Log.latest?_eq_some_iff.1 latest
      exact ⟨before, r, after, split, same, rfl, other⟩
    next => cases found
  · rintro ⟨before, r, after, split, same, rfl, other⟩
    have latest := Log.latest?_eq_some_iff.2 ⟨same, before, after, split, other⟩
    rw [latest]

theorem resolve_eq_error_iff (h : Follows context log) (name : String) (e : ResolutionError) :
    context.resolve name = .error e ↔
      e = ⟨name, context.names⟩ ∧ ∀ r ∈ log, r.name ≠ name := by
  rw [h.resolve_eq, h.names, ← Log.latest?_eq_none_iff, Log.resolve]
  cases log.latest? name with
  | none => simp [eq_comm]
  | some r => simp

end Follows

section Lookups
variable (context : Context) (name : String)

theorem contains_iff_mem_names : context.contains name = true ↔ name ∈ context.names :=
  Table.contains_iff _ _

theorem contains_iff_resolve :
    context.contains name = true ↔ ∃ c, context.resolve name = .ok c := by
  have absent := Table.find?_eq_none_iff context.components name
  rw [contains_iff_mem_names, names, resolve]
  cases found : context.components.find? name with
  | none => simpa using absent.1 found
  | some c => simpa [found] using absent

/-- What a failed lookup reports besides the name may change, what a name stands for may not. -/
theorem resolve_enter_of_ne {r : Registration} (other : name ≠ r.name) :
    ((context.enter r).resolve name).mapError ResolutionError.name =
      (context.resolve name).mapError ResolutionError.name := by
  have read : (context.enter r).components.find? name = context.components.find? name :=
    (Table.find?_insert _ _ _ _).trans (if_neg other)
  rw [resolve, resolve, read]
  cases context.components.find? name <;> rfl

end Lookups

/-! ## Calls -/

inductive Request
  | register (r : Registration)
  | resolve (name : String)

def serve : Request → StateM Context (Option (Except ResolutionError Component))
  | .register r => do
    modify fun context => context.enter r
    return none
  | .resolve name => return some ((← get).resolve name)

def serveAll (requests : List Request) :
    StateM Context (List (Option (Except ResolutionError Component))) :=
  requests.mapM serve

def registrations (requests : List Request) : Log :=
  requests.filterMap fun
    | .register r => some r
    | .resolve _ => none

/-- The answers that a log and the calls after it determine. -/
def answers : Log → List Request → List (Option (Except ResolutionError Component))
  | _, [] => []
  | log, .register r :: rest => none :: answers (log ++ [r]) rest
  | log, .resolve name :: rest => some (log.resolve name) :: answers log rest

theorem serveAll_cons (request : Request) (requests : List Request) (context : Context) :
    serveAll (request :: requests) context =
      ((serve request context).1 :: (serveAll requests (serve request context).2).1,
        (serveAll requests (serve request context).2).2) := by
  rw [serveAll, List.mapM_cons]
  rfl

theorem Follows.serveAll {context : Context} {log : Log} (h : Follows context log)
    (requests : List Request) :
    (Context.serveAll requests context).1 = answers log requests ∧
      Follows (Context.serveAll requests context).2 (log ++ registrations requests) := by
  induction requests generalizing context log with
  | nil =>
    refine ⟨rfl, ?_⟩
    rw [registrations, List.filterMap_nil, List.append_nil]
    exact h
  | cons request requests ih =>
    rw [serveAll_cons]
    cases request with
    | register r =>
      obtain ⟨answered, follows⟩ := ih (h.enter r)
      rw [List.append_assoc] at follows
      exact ⟨congrArg (none :: ·) answered, follows⟩
    | resolve name =>
      obtain ⟨answered, follows⟩ := ih h
      have first : (serve (.resolve name) context).1 = some (log.resolve name) :=
        congrArg some (h.resolve_eq name)
      refine ⟨?_, follows⟩
      rw [answers, ← first]
      exact congrArg (_ :: ·) answered

/-- What can be seen of a context is what its log says. -/
structure Shows (context : Context) (log : Log) : Prop where
  names : context.names = (log.map Registration.name).eraseDups
  resolve_ok : ∀ name c, context.resolve name = .ok c ↔
    ∃ before r after, log = before ++ r :: after ∧ r.name = name ∧ r.component = c ∧
      ∀ q ∈ after, q.name ≠ name
  resolve_error : ∀ name e, context.resolve name = .error e ↔
    e = ⟨name, context.names⟩ ∧ ∀ r ∈ log, r.name ≠ name
  contains_resolve : ∀ name, context.contains name = true ↔ ∃ c, context.resolve name = .ok c
  contains_names : ∀ name, context.contains name = true ↔ name ∈ context.names
  /-- A registration leaves what any other name stands for, or that it stands for nothing. -/
  others : ∀ r name, name ≠ Registration.name r →
    ((context.register r.component r.given).resolve name).mapError ResolutionError.name =
      (context.resolve name).mapError ResolutionError.name
  /-- A lookup changes nothing, whether it fails or not. -/
  unchanged : ∀ name, serve (.resolve name) context = (some (context.resolve name), context)

theorem Follows.shows {context : Context} {log : Log} (h : Follows context log) :
    Shows context log where
  names := h.names
  resolve_ok := h.resolve_eq_ok_iff
  resolve_error := h.resolve_eq_error_iff
  contains_resolve := context.contains_iff_resolve
  contains_names := context.contains_iff_mem_names
  others := fun _ name other => context.resolve_enter_of_ne name other
  unchanged := fun _ => rfl

/-- A name keeps its place when another component takes it over. -/
example :
    let badge : Component := ⟨0, "Badge", .text "new"⟩
    let note : Component := ⟨1, "Note", .text "old"⟩
    let context := (ofComponents [badge, note]).register note (some "Badge")
    context.names = ["Badge", "Note"] ∧ context.resolve "Badge" = .ok note ∧
      context.register badge (some "") = ofComponents [badge, note] :=
  ⟨rfl, rfl, rfl⟩

end DocPages.Context
