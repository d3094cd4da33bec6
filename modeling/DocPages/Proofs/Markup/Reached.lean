import DocPages.Markup
/-! # When a tree becomes markup

A tree becomes markup unless the rendering comes to a value that is no node, and then it stops at the
first of them (`write_cases`).  It goes into fragments, components and elements, but not below a void
element. -/
set_option autoImplicit false
namespace DocPages.Markup

mutual
/-- The values that are no nodes and that a rendering comes to, in document order. -/
def reached : Node → List Data
  | .text _ => []
  | .static _ _ => []
  | .component _ _ body => reached body
  | .fragment children => reachedAll children
  | .element tag _ children => if isVoid tag then [] else reachedAll children
  | .foreign value => [value]

def reachedAll : List Node → List Data
  | [] => []
  | n :: ns => reached n ++ reachedAll ns
end

def Stops (values : List Data) (result : Except Error (List Char)) : Prop :=
  match values with
  | [] => ∃ cs, result = .ok cs
  | v :: _ => result = .error (.notANode v.kind)

mutual
theorem write_cases : ∀ n : Node, Stops (reached n) (write n)
  | .text s => by
    rw [reached, write]
    exact ⟨_, rfl⟩
  | .static html count => by
    rw [reached, write]
    exact ⟨_, rfl⟩
  | .component identity name body => by
    rw [reached, write]
    exact write_cases body
  | .fragment children => by
    rw [reached, write]
    exact writeAll_cases children
  | .foreign value => by
    rw [reached, write]
    rfl
  | .element tag attributes children => by
    rw [reached]
    by_cases void : isVoid tag
    · rw [if_pos void]
      exact ⟨_, write_of_void void⟩
    · rw [if_neg void]
      have inner := writeAll_cases children
      cases values : reachedAll children with
      | nil =>
        rw [values] at inner
        obtain ⟨cs, wrote⟩ := inner
        exact ⟨_, write_of_children void wrote⟩
      | cons v rest =>
        rw [values] at inner
        exact write_of_children_error void inner

theorem writeAll_cases : ∀ ns : List Node, Stops (reachedAll ns) (writeAll ns)
  | [] => by
    rw [reachedAll, writeAll]
    exact ⟨_, rfl⟩
  | n :: ns => by
    rw [reachedAll]
    have first := write_cases n
    have rest := writeAll_cases ns
    cases values : reached n with
    | cons v more =>
      rw [values] at first
      exact writeAll_of_error first
    | nil =>
      rw [values] at first
      obtain ⟨cs, wrote⟩ := first
      rw [List.nil_append]
      cases later : reachedAll ns with
      | nil =>
        rw [later] at rest
        obtain ⟨cs', wrote'⟩ := rest
        exact ⟨_, writeAll_of_ok wrote wrote'⟩
      | cons v more =>
        rw [later] at rest
        exact writeAll_of_later_error wrote rest
end

theorem render_eq_ok {n : Node} (nodes : reached n = []) : ∃ markup, render n = .ok markup := by
  have result := write_cases n
  rw [nodes] at result
  obtain ⟨cs, wrote⟩ := result
  exact ⟨_, render_of_write wrote⟩

end DocPages.Markup
