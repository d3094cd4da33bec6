/-! # File paths

A path is a kind of root and a list of names.  Reading one drops empty names and single dots; double
dots stay, because what they lead to depends on the files.  Exactly two leading slashes are a root of
their own, one or any other number of them is the ordinary root. -/
set_option autoImplicit false
namespace DocPages

/-- What may stand between two slashes of a path that has been read. -/
def IsName (s : List Char) : Prop := s ≠ [] ∧ s ≠ ['.'] ∧ '/' ∉ s

instance (s : List Char) : Decidable (IsName s) := by unfold IsName; infer_instance

inductive Root
  | none
  | single
  | double
  deriving DecidableEq, Inhabited

structure Path where
  root : Root
  names : List String
  isName : ∀ s ∈ names, IsName s.toList
  deriving DecidableEq

namespace Path

def cut : List Char → List (List Char)
  | [] => [[]]
  | c :: cs =>
    if c = '/' then [] :: cut cs
    else match cut cs with
      | [] => [[c]]
      | p :: ps => (c :: p) :: ps

def rootOf : List Char → Root
  | '/' :: '/' :: '/' :: _ => .single
  | '/' :: '/' :: _ => .double
  | '/' :: _ => .single
  | _ => .none

def namesOf (cs : List Char) : List String :=
  ((cut cs).filter fun p => decide (IsName p)).map String.ofList

theorem isName_of_mem_namesOf {cs : List Char} : ∀ s ∈ namesOf cs, IsName s.toList := by
  intro s hs
  obtain ⟨p, hp, rfl⟩ := List.mem_map.1 hs
  simpa using (List.mem_filter.1 hp).2

def ofString (s : String) : Path := ⟨rootOf s.toList, namesOf s.toList, isName_of_mem_namesOf⟩

def Root.text : Root → String
  | .none => ""
  | .single => "/"
  | .double => "//"

/-- The path that leads nowhere is written as a dot. -/
def toString (p : Path) : String :=
  if p.root = .none ∧ p.names = [] then "."
  else Root.text p.root ++ String.intercalate "/" p.names

instance : ToString Path := ⟨toString⟩

/-- An absolute path on the right replaces the left one. -/
def join (base p : Path) : Path :=
  if p.root = .none then
    ⟨base.root, base.names ++ p.names, fun s hs =>
      (List.mem_append.1 hs).elim (base.isName s) (p.isName s)⟩
  else p

def parent (p : Path) : Path :=
  ⟨p.root, p.names.dropLast, fun s hs => p.isName s ((List.dropLast_sublist _).subset hs)⟩

/-- The path under a route: slashes at its start do not make it absolute. -/
def ofRoute (route : String) : Path :=
  ofString (String.ofList (route.toList.dropWhile (· = '/')))

def relativeTo? (p base : Path) : Option Path :=
  if p.root = base.root ∧ base.names <+: p.names then
    some ⟨.none, p.names.drop base.names.length, fun s hs => p.isName s (List.mem_of_mem_drop hs)⟩
  else none

/-- How a path is reported: relative to the working directory when it is absolute and lies below it
by its names, and as it stands otherwise. -/
def display (p working : Path) : Path :=
  if p.root = .none then p else (p.relativeTo? working).getD p

end Path
end DocPages
