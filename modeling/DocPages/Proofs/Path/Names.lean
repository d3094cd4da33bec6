import DocPages.Path
/-! # The names of a path

Reading a path cuts it at every slash and keeps the names among the pieces.  So names that are written
with a slash between them are read back (`namesOf_intercalate`), and the slashes in front of a route
do not matter (`names_ofRoute`). -/
set_option autoImplicit false
namespace DocPages.Path

theorem eq_of_names {p q : Path} (root : p.root = q.root) (names : p.names = q.names) : p = q := by
  cases p
  cases q
  cases root
  cases names
  rfl

theorem cut_ne_nil (cs : List Char) : cut cs ≠ [] := by
  cases cs with
  | nil => exact List.cons_ne_nil _ _
  | cons c cs =>
    rw [cut]
    split
    · exact List.cons_ne_nil _ _
    · split <;> exact List.cons_ne_nil _ _

theorem cut_append (cs rest : List Char) : cut (cs ++ '/' :: rest) = cut cs ++ cut rest := by
  induction cs with
  | nil => rfl
  | cons c cs ih =>
    rw [List.cons_append, cut, cut]
    split
    next => rw [ih]; rfl
    next =>
      rw [ih]
      cases pieces : cut cs with
      | nil => exact absurd pieces (cut_ne_nil cs)
      | cons p ps => rfl

theorem cut_of_notMem {cs : List Char} (whole : '/' ∉ cs) : cut cs = [cs] := by
  induction cs with
  | nil => rfl
  | cons c cs ih =>
    rw [List.mem_cons, not_or] at whole
    rw [cut, if_neg (Ne.symm whole.1), ih whole.2]

theorem namesOf_append (cs rest : List Char) :
    namesOf (cs ++ '/' :: rest) = namesOf cs ++ namesOf rest := by
  rw [namesOf, cut_append, List.filter_append, List.map_append]
  rfl

theorem namesOf_cons_slash (cs : List Char) : namesOf ('/' :: cs) = namesOf cs :=
  namesOf_append [] cs

theorem namesOf_name {name : String} (h : IsName name.toList) : namesOf name.toList = [name] := by
  rw [namesOf, cut_of_notMem h.2.2, List.filter_cons_of_pos (by simpa using h)]
  simp

theorem namesOf_intercalate {names : List String} (h : ∀ name ∈ names, IsName name.toList) :
    namesOf (String.intercalate "/" names).toList = names := by
  induction names with
  | nil =>
    rw [String.intercalate_nil]
    rfl
  | cons name rest ih =>
    have first := namesOf_name (h name List.mem_cons_self)
    cases rest with
    | nil =>
      rw [String.intercalate_singleton]
      exact first
    | cons next rest =>
      have slash : ("/" : String).toList = ['/'] := rfl
      rw [String.intercalate_cons_cons, String.toList_append, String.toList_append, slash,
        List.append_assoc, List.singleton_append, namesOf_append, first,
        ih fun other mem => h other (List.mem_cons_of_mem _ mem)]
      rfl

theorem rootOf_cons_of_ne {c : Char} (cs : List Char) (other : c ≠ '/') :
    rootOf (c :: cs) = .none := by
  unfold rootOf
  split
  next same => cases same; exact absurd rfl other
  next same => cases same; exact absurd rfl other
  next same => cases same; exact absurd rfl other
  next => rfl

theorem rootOf_dropWhile (cs : List Char) : rootOf (cs.dropWhile (· = '/')) = .none := by
  induction cs with
  | nil => rfl
  | cons c cs ih =>
    by_cases slash : c = '/'
    · rw [List.dropWhile_cons_of_pos (by simpa using slash)]
      exact ih
    · rw [List.dropWhile_cons_of_neg (by simpa using slash)]
      exact rootOf_cons_of_ne cs slash

theorem namesOf_dropWhile (cs : List Char) : namesOf (cs.dropWhile (· = '/')) = namesOf cs := by
  induction cs with
  | nil => rfl
  | cons c cs ih =>
    by_cases slash : c = '/'
    · subst slash
      rw [List.dropWhile_cons_of_pos (by simp), ih, namesOf_cons_slash]
    · rw [List.dropWhile_cons_of_neg (by simpa using slash)]

theorem root_ofString (s : String) : (ofString s).root = rootOf s.toList := rfl

theorem names_ofString (s : String) : (ofString s).names = namesOf s.toList := rfl

theorem root_ofRoute (route : String) : (ofRoute route).root = .none := by
  rw [ofRoute, root_ofString, String.toList_ofList]
  exact rootOf_dropWhile route.toList

theorem names_ofRoute (route : String) : (ofRoute route).names = namesOf route.toList := by
  rw [ofRoute, names_ofString, String.toList_ofList]
  exact namesOf_dropWhile route.toList

theorem root_parent (p : Path) : p.parent.root = p.root := rfl

theorem names_parent (p : Path) : p.parent.names = p.names.dropLast := rfl

theorem root_join {base p : Path} (relative : p.root = .none) : (base.join p).root = base.root := by
  rw [join, if_pos relative]

theorem names_join {base p : Path} (relative : p.root = .none) :
    (base.join p).names = base.names ++ p.names := by
  rw [join, if_pos relative]

end DocPages.Path
