import Mathlib.Data.List.Forall2
import Mathlib.Data.List.Lex
import DocPages.Proofs.Markup.Reached
/-! # Places in a tree

A place is the way on which a rendering comes to a node: at each step it says which of the nodes that
are entered there is taken.  Lexicographic order of places is document order.  A rendering fails exactly
when there is a value at some place that is no node, and what it names is the first of these values
(`failing_at_first_value`).  The traversals that take no markup from a tree do not fail, and such a value
counts for them as an empty text. -/
set_option autoImplicit false
namespace DocPages.Markup

open Node (textContent textContents elements elementsOf)

/-- The nodes that a rendering goes into from a node, in document order. -/
def entered : Node → List Node
  | .fragment children => children
  | .component _ _ body => [body]
  | .element tag _ children => if isVoid tag then [] else children
  | .text _ => []
  | .static _ _ => []
  | .foreign _ => []

def at? : Node → List Nat → Option Node
  | n, [] => some n
  | n, i :: place => (entered n)[i]?.bind fun child => at? child place

/-- At this place stands the first value of a tree that is no node. -/
structure FirstValue (n : Node) (place : List Nat) (v : Data) : Prop where
  found : at? n place = some (.foreign v)
  first : ∀ earlier, earlier < place → ∀ w, at? n earlier ≠ some (.foreign w)

theorem at?_cons {n child : Node} {i : Nat} (taken : (entered n)[i]? = some child)
    (place : List Nat) : at? n (i :: place) = at? child place := by
  rw [at?, taken, Option.bind_some]

theorem FirstValue.unique {n : Node} {place place' : List Nat} {v w : Data}
    (here : FirstValue n place v) (there : FirstValue n place' w) : v = w := by
  have same : place = place' := by
    rcases lt_trichotomy place place' with before | same | after
    · exact absurd here.found (there.first place before v)
    · exact same
    · exact absurd there.found (here.first place' after w)
  have found := here.found
  rw [same, there.found, Option.some.injEq, Node.foreign.injEq] at found
  exact found.symm

/-! ## The values that a rendering comes to -/

theorem reachedAll_eq_nil_iff (ns : List Node) :
    reachedAll ns = [] ↔ ∀ n ∈ ns, reached n = [] := by
  induction ns with
  | nil => simp [reachedAll]
  | cons n ns ih => rw [reachedAll, List.append_eq_nil_iff, ih, List.forall_mem_cons]

theorem reached_of_entered {n child : Node} (taken : child ∈ entered n) (none : reached n = []) :
    reached child = [] := by
  cases n with
  | fragment children => exact (reachedAll_eq_nil_iff children).1 none child taken
  | component identity name body =>
    rw [List.mem_singleton.1 taken]
    exact none
  | element tag attributes children =>
    rw [entered] at taken
    rw [reached] at none
    by_cases void : isVoid tag
    · rw [if_pos void] at taken
      cases taken
    · rw [if_neg void] at taken none
      exact (reachedAll_eq_nil_iff children).1 none child taken
  | text s => cases taken
  | static html count => cases taken
  | foreign v => cases taken

theorem no_value {n : Node} (none : reached n = []) (place : List Nat) (v : Data) :
    at? n place ≠ some (.foreign v) := by
  induction place generalizing n with
  | nil =>
    intro found
    rw [at?, Option.some.injEq] at found
    rw [found] at none
    cases none
  | cons i place ih =>
    intro found
    rw [at?, Option.bind_eq_some_iff] at found
    obtain ⟨child, taken, found⟩ := found
    exact ih (reached_of_entered (List.mem_of_getElem? taken) none) found

theorem FirstValue.cons {n child : Node} {i : Nat} {place : List Nat} {v : Data}
    (taken : (entered n)[i]? = some child) (below : FirstValue child place v)
    (front : ∀ j, j < i → ∀ c, (entered n)[j]? = some c → reached c = []) :
    FirstValue n (i :: place) v := by
  constructor
  case found =>
    rw [at?_cons taken]
    exact below.found
  case first =>
    intro earlier before w found
    cases earlier with
    | nil =>
      rw [at?, Option.some.injEq] at found
      rw [found] at taken
      cases taken
    | cons j steps =>
      rcases List.cons_lt_cons_iff.1 before with left | ⟨rfl, deeper⟩
      · rw [at?, Option.bind_eq_some_iff] at found
        obtain ⟨c, there, found⟩ := found
        exact no_value (front j left c there) steps w found
      · rw [at?_cons taken] at found
        exact below.first steps deeper w found

mutual
theorem exists_first : ∀ (n : Node) {v : Data} {rest : List Data}, reached n = v :: rest →
    ∃ place, FirstValue n place v
  | .foreign w, v, rest, values => by
    cases values
    exact ⟨[], rfl, fun earlier before => absurd before (List.not_lt_nil earlier)⟩
  | .fragment children, v, rest, values => by
    obtain ⟨i, child, place, taken, below, front⟩ := exists_firstAll children values
    exact ⟨i :: place, below.cons taken front⟩
  | .component identity name body, v, rest, values => by
    obtain ⟨place, below⟩ := exists_first body values
    exact ⟨0 :: place, below.cons rfl fun j left => absurd left (Nat.not_lt_zero j)⟩
  | .element tag attributes children, v, rest, values => by
    rw [reached] at values
    by_cases void : isVoid tag
    · rw [if_pos void] at values
      cases values
    · rw [if_neg void] at values
      obtain ⟨i, child, place, taken, below, front⟩ := exists_firstAll children values
      have same : entered (.element tag attributes children) = children := by
        rw [entered, if_neg void]
      rw [← same] at taken front
      exact ⟨i :: place, below.cons taken front⟩
  | .text _, _, _, values => by cases values
  | .static _ _, _, _, values => by cases values

theorem exists_firstAll : ∀ (ns : List Node) {v : Data} {rest : List Data},
    reachedAll ns = v :: rest → ∃ (i : Nat) (child : Node) (place : List Nat), ns[i]? = some child ∧
      FirstValue child place v ∧ ∀ j, j < i → ∀ c, ns[j]? = some c → reached c = []
  | [], _, _, values => by cases values
  | n :: ns, v, rest, values => by
    rw [reachedAll] at values
    cases head : reached n with
    | nil =>
      rw [head, List.nil_append] at values
      obtain ⟨i, child, place, taken, below, front⟩ := exists_firstAll ns values
      refine ⟨i + 1, child, place, taken, below, fun j left c there => ?_⟩
      cases j with
      | zero =>
        cases there
        exact head
      | succ j => exact front j (Nat.lt_of_succ_lt_succ left) c there
    | cons w more =>
      rw [head] at values
      cases values
      obtain ⟨place, below⟩ := exists_first n head
      exact ⟨0, n, place, rfl, below, fun j left => absurd left (Nat.not_lt_zero j)⟩
end

/-! ## Failures -/

theorem render_eq_error_iff_first (n : Node) (e : Error) :
    render n = .error e ↔ ∃ place v, FirstValue n place v ∧ e = .notANode v.kind := by
  have result := write_cases n
  cases values : reached n with
  | nil =>
    rw [values] at result
    obtain ⟨cs, wrote⟩ := result
    constructor
    · intro failed
      rw [render_of_write wrote] at failed
      cases failed
    · rintro ⟨place, v, here, rfl⟩
      exact absurd here.found (no_value values place v)
  | cons w rest =>
    rw [values] at result
    have wrote : write n = .error (.notANode w.kind) := result
    obtain ⟨place, here⟩ := exists_first n values
    constructor
    · intro failed
      rw [render, wrote] at failed
      cases failed
      exact ⟨place, w, here, rfl⟩
    · rintro ⟨place', v, there, rfl⟩
      rw [render, wrote, here.unique there]
      rfl

theorem render_error_iff_value (n : Node) :
    (∃ e, render n = .error e) ↔ ∃ place v, at? n place = some (.foreign v) := by
  constructor
  · rintro ⟨e, failed⟩
    obtain ⟨place, v, here, _⟩ := (render_eq_error_iff_first n e).1 failed
    exact ⟨place, v, here.found⟩
  · rintro ⟨place, v, found⟩
    cases values : reached n with
    | nil => exact absurd found (no_value values place v)
    | cons w rest =>
      obtain ⟨first, here⟩ := exists_first n values
      exact ⟨_, (render_eq_error_iff_first n _).2 ⟨first, w, here, rfl⟩⟩

theorem reached_eq_nil_of_ok {n : Node} {markup : String} (rendered : render n = .ok markup) :
    reached n = [] := by
  cases values : reached n with
  | nil => rfl
  | cons v rest =>
    obtain ⟨place, here⟩ := exists_first n values
    rw [(render_eq_error_iff_first n _).2 ⟨place, v, here, rfl⟩] at rendered
    cases rendered

/-! ## Traversals that do not fail -/

mutual
/-- The tree with an empty text for every value that is no node. -/
def cleared : Node → Node
  | .foreign _ => .text ""
  | .text s => .text s
  | .static html count => .static html count
  | .component identity name body => .component identity name (cleared body)
  | .fragment children => .fragment (clearedAll children)
  | .element tag attributes children => .element tag attributes (clearedAll children)

def clearedAll : List Node → List Node
  | [] => []
  | n :: ns => cleared n :: clearedAll ns
end

mutual
theorem reached_cleared : ∀ n : Node, reached (cleared n) = []
  | .foreign _ => rfl
  | .text _ => rfl
  | .static _ _ => rfl
  | .component _ _ body => reached_cleared body
  | .fragment children => reached_clearedAll children
  | .element tag _ children => by
    rw [cleared, reached, reached_clearedAll children, ite_self]

theorem reached_clearedAll : ∀ ns : List Node, reachedAll (clearedAll ns) = []
  | [] => rfl
  | n :: ns => by
    rw [clearedAll, reachedAll, reached_cleared n, reached_clearedAll ns, List.append_nil]
end

mutual
theorem textContent_cleared : ∀ n : Node, textContent (cleared n) = textContent n
  | .foreign _ => rfl
  | .text _ => rfl
  | .static _ _ => rfl
  | .component _ _ _ => rfl
  | .fragment children => textContents_clearedAll children
  | .element _ _ children => textContents_clearedAll children

theorem textContents_clearedAll : ∀ ns : List Node, textContents (clearedAll ns) = textContents ns
  | [] => rfl
  | n :: ns => by
    rw [clearedAll, textContents, textContents, textContent_cleared n, textContents_clearedAll ns]
end

def headOf (e : Element) : String × Attributes := (e.tag, e.attributes)

mutual
theorem heads_cleared : ∀ n : Node, (elements (cleared n)).map headOf = (elements n).map headOf
  | .foreign _ => rfl
  | .text _ => rfl
  | .static _ _ => rfl
  | .component _ _ _ => rfl
  | .fragment children => heads_clearedAll children
  | .element tag attributes children => by
    rw [cleared, elements, elements, List.map_cons, List.map_cons, heads_clearedAll children]
    rfl

theorem heads_clearedAll : ∀ ns : List Node,
    (elementsOf (clearedAll ns)).map headOf = (elementsOf ns).map headOf
  | [] => rfl
  | n :: ns => by
    rw [clearedAll, elementsOf, elementsOf, List.map_append, List.map_append, heads_cleared n,
      heads_clearedAll ns]
end

/-! ## Strings among the children of a new element -/

/-- A string becomes a text, and everything else stays. -/
inductive Converted : Node → Node → Prop
  | string (s : String) : Converted (.foreign (.text s)) (.text s)
  | other {n : Node} (noString : ∀ s, n ≠ .foreign (.text s)) : Converted n n

theorem converted_ofChild (n : Node) : Converted n (Node.ofChild n) := by
  unfold Node.ofChild
  split
  next s => exact .string s
  next other => exact .other other

/-- The element that is built has the tag, the attributes and the converted children, in their places. -/
theorem build_eq_element (tag : String) {attributes : Attributes} (children : List Node)
    (distinct : (attributes.map Prod.fst).Nodup) :
    ∃ converted, Node.build tag attributes children = .element tag attributes converted ∧
      List.Forall₂ Converted children converted := by
  refine ⟨children.map Node.ofChild, by rw [Node.build, Table.entries_ofList distinct], ?_⟩
  rw [List.forall₂_map_right_iff]
  exact List.forall₂_same.2 fun n _ => converted_ofChild n

theorem build_string (tag : String) (attributes : Attributes) (before after : List Node)
    (s : String) : Node.build tag attributes (before ++ .foreign (.text s) :: after) =
      Node.build tag attributes (before ++ .text s :: after) := by
  simp [Node.build, Node.ofChild]

theorem render_build (tag : String) (attributes : Attributes) {children : List Node}
    (proper : ∀ c ∈ children, (∃ s, c = .foreign (.text s)) ∨ ∃ markup, render c = .ok markup) :
    ∃ markup, render (Node.build tag attributes children) = .ok markup := by
  have inside : reachedAll (children.map Node.ofChild) = [] := by
    refine (reachedAll_eq_nil_iff _).2 fun n converted => ?_
    obtain ⟨c, mem, rfl⟩ := List.mem_map.1 converted
    rcases proper c mem with ⟨s, rfl⟩ | ⟨markup, rendered⟩
    · rfl
    · have none := reached_eq_nil_of_ok rendered
      unfold Node.ofChild
      split
      · rfl
      · exact none
  apply render_eq_ok
  rw [Node.build, reached, inside, ite_self]

/-! ## When a rendering fails -/

/-- What a tree with values among its nodes becomes: markup, a text and a list of elements. -/
structure Failing (n : Node) : Prop where
  fails : (∃ e, render n = .error e) ↔ ∃ place v, at? n place = some (.foreign v)
  names : ∀ e, render n = .error e ↔ ∃ place v, FirstValue n place v ∧ e = .notANode v.kind
  clear : ∃ markup, render (cleared n) = .ok markup
  text : textContent n = textContent (cleared n)
  heads : (elements n).map headOf = (elements (cleared n)).map headOf

theorem failing (n : Node) : Failing n where
  fails := render_error_iff_value n
  names := render_eq_error_iff_first n
  clear := render_eq_ok (reached_cleared n)
  text := (textContent_cleared n).symm
  heads := (heads_cleared n).symm

/-- Every rendering fails at the first value that is no node, if there is one at all.  Below a void
element there is none.  A new element has the tag, the attributes and the children that it is given, and
a string that is handed to it is a text there. -/
theorem failing_at_first_value :
    (∀ n, Failing n) ∧
    (∀ tag attributes children, isVoid tag = true →
      ∃ markup, render (.element tag attributes children) = .ok markup) ∧
    (∀ tag attributes before after s,
      Node.build tag attributes (before ++ .foreign (.text s) :: after) =
        Node.build tag attributes (before ++ .text s :: after)) ∧
    (∀ tag attributes children, (attributes.map Prod.fst).Nodup →
      ∃ converted, Node.build tag attributes children = .element tag attributes converted ∧
        List.Forall₂ Converted children converted) ∧
    ∀ tag attributes children,
      (∀ c ∈ children, (∃ s, c = .foreign (.text s)) ∨ ∃ markup, render c = .ok markup) →
      ∃ markup, render (Node.build tag attributes children) = .ok markup := by
  refine ⟨failing, fun tag attributes children void => ?_, build_string, ?_, ?_⟩
  · apply render_eq_ok
    rw [reached, if_pos void]
  · intro tag attributes children distinct
    exact build_eq_element tag children distinct
  · intro tag attributes children proper
    exact render_build tag attributes proper

/-- A number below a void element, a list that a component renders to, and a null value behind it. -/
theorem failing_at_first_value_nested :
    let n : Node := .fragment [.element "br" [] [.foreign (.int 1)],
      .component 0 "Box" (.element "p" [] [.text "x", .foreign (.list [])]), .foreign .null]
    render n = .error (.notANode "list") ∧
      (∃ place v, FirstValue n place v ∧ Error.notANode "list" = .notANode v.kind) ∧
      ∃ markup, render (Node.build "p" [] [.foreign (.text "a"), .text "b"]) = .ok markup := by
  intro n
  have failed : render n = .error (.notANode "list") := rfl
  refine ⟨failed, ((failing_at_first_value.1 n).names _).1 failed, ?_⟩
  refine failing_at_first_value.2.2.2.2 "p" [] [.foreign (.text "a"), .text "b"] ?_
  simp only [List.forall_mem_cons]
  exact ⟨Or.inl ⟨"a", rfl⟩, Or.inr ⟨_, rfl⟩, fun c mem => by cases mem⟩

end DocPages.Markup
