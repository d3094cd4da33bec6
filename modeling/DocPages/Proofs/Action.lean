/-! # Actions that may fail

An action changes a state and gives a value or an error, and it leaves the state that it has come to in
either case.  A sequence of two actions goes on after a value and stops at an error. -/
set_option autoImplicit false
namespace DocPages.Action

section Sequence
variable {ε σ α β : Type} {first : ExceptT ε (StateM σ) α} {next : α → ExceptT ε (StateM σ) β}
variable {s s' s'' : σ}

theorem bind_of_ok {a : α} (done : first s = (.ok a, s')) : (first >>= next) s = next a s' := by
  simp only [bind, ExceptT.bind, ExceptT.mk, StateT.bind, done]
  rfl

theorem bind_of_error {e : ε} (failed : first s = (.error e, s')) :
    (first >>= next) s = (.error e, s') := by
  simp only [bind, ExceptT.bind, ExceptT.mk, StateT.bind, failed]
  rfl

theorem bind_eq_ok {b : β} (done : (first >>= next) s = (.ok b, s'')) :
    ∃ a s', first s = (.ok a, s') ∧ next a s' = (.ok b, s'') := by
  rcases ran : first s with ⟨e | a, s'⟩
  · rw [bind_of_error ran] at done
    cases done
  · rw [bind_of_ok ran] at done
    exact ⟨a, s', rfl, done⟩

theorem bind_eq_error {e : ε} (failed : (first >>= next) s = (.error e, s'')) :
    first s = (.error e, s'') ∨ ∃ a s', first s = (.ok a, s') ∧ next a s' = (.error e, s'') := by
  rcases ran : first s with ⟨e' | a, s'⟩
  · rw [bind_of_error ran] at failed
    cases failed
    exact Or.inl rfl
  · rw [bind_of_ok ran] at failed
    exact Or.inr ⟨a, s', rfl, failed⟩

end Sequence

theorem pure_eq_ok {ε σ α : Type} {a b : α} {s s' : σ}
    (done : (pure a : ExceptT ε (StateM σ) α) s = (.ok b, s')) : b = a ∧ s' = s := by
  have pair : ((.ok a : Except ε α), s) = (.ok b, s') := done
  cases pair
  exact ⟨rfl, rfl⟩

section Results
variable {ε ε' α β : Type}

theorem bind_result_eq_ok {result : Except ε α} {next : α → Except ε β} {b : β}
    (done : (result >>= next) = .ok b) : ∃ a, result = .ok a ∧ next a = .ok b := by
  cases result with
  | error e => cases done
  | ok a => exact ⟨a, rfl, done⟩

@[simp] theorem mapError_ok (f : ε → ε') (a : α) :
    (Except.ok a : Except ε α).mapError f = .ok a := rfl

end Results

section Lists
variable {ε α β : Type} {f : α → Except ε β}

theorem mapM_cons_eq_ok {a : α} {rest : List α} {found : List β}
    (ran : (a :: rest).mapM f = .ok found) :
    ∃ b bs, f a = .ok b ∧ rest.mapM f = .ok bs ∧ found = b :: bs := by
  rw [List.mapM_cons] at ran
  obtain ⟨b, first, ran⟩ := bind_result_eq_ok ran
  obtain ⟨bs, later, ran⟩ := bind_result_eq_ok ran
  cases ran
  exact ⟨b, bs, first, later, rfl⟩

theorem map_of_mapM {l : List α} {found : List β} (ran : l.mapM f = .ok found) :
    l.map f = found.map .ok := by
  induction l generalizing found with
  | nil =>
    rw [List.mapM_nil] at ran
    cases ran
    rfl
  | cons a rest ih =>
    obtain ⟨b, bs, first, later, rfl⟩ := mapM_cons_eq_ok ran
    rw [List.map_cons, List.map_cons, first, ih later]

theorem mapM_of_map {l : List α} {found : List β} (each : l.map f = found.map .ok) :
    l.mapM f = .ok found := by
  induction l generalizing found with
  | nil =>
    rw [List.map_nil] at each
    rw [List.map_eq_nil_iff.1 each.symm]
    rfl
  | cons a rest ih =>
    cases found with
    | nil => cases each
    | cons b found =>
      rw [List.map_cons, List.map_cons, List.cons.injEq] at each
      rw [List.mapM_cons, each.1, ih each.2]
      rfl

/-- A list is run through to its end, or up to the first element that fails. -/
theorem mapM_cases (f : α → Except ε β) (l : List α) :
    (∃ found, l.mapM f = .ok found) ∨
    ∃ before a after found e, l = before ++ a :: after ∧ before.mapM f = .ok found ∧
      f a = .error e ∧ l.mapM f = .error e := by
  induction l with
  | nil => exact Or.inl ⟨[], rfl⟩
  | cons a rest ih =>
    rw [List.mapM_cons]
    cases first : f a with
    | error e => exact Or.inr ⟨[], a, rest, [], e, rfl, rfl, first, rfl⟩
    | ok b =>
      rcases ih with ⟨found, ran⟩ | ⟨before, bad, after, found, e, rfl, ran, failed, stopped⟩
      · rw [ran]
        exact Or.inl ⟨b :: found, rfl⟩
      · refine Or.inr ⟨a :: before, bad, after, b :: found, e, rfl, ?_, failed, ?_⟩
        · rw [List.mapM_cons, first, ran]
          rfl
        · rw [stopped]
          rfl

end Lists
end DocPages.Action
