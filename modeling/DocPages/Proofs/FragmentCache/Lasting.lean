import DocPages.Proofs.FragmentCache.History
import DocPages.Proofs.FragmentCache.Safety
/-! # Built fragments that last

A node that is stored stays: its builder is not called any more and every access returns it
(`made_performAll`).  A null value is stored as well, and the cache calls its fragment built, but it
does not last (`null_called_again`).  So what the cache tells of a fragment can be relied on exactly when
its builder has returned a node, as it does if it returns nodes only (`lasting_iff_node`). -/
set_option autoImplicit false
namespace DocPages.FragmentCache

/-- What the accesses of a history have to do with the objects that are stored. -/
structure Stores (builders : Table String Builder) (history : List Entry) (cache : FragmentCache) :
    Prop where
  registered : cache.builders = builders
  answered : ∀ name o, cache.fragments.find? name = some o →
    ∃ builder call, builders.find? name = some builder ∧ builder call = .ok o
  /-- A node that was returned once is still there. -/
  returned : ∀ name o, .accessed name (.ok o) ∈ history → o.isNull = false →
    cache.made? name = some o

section Runs
variable {builders : Table String Builder} {history : List Entry} {cache : FragmentCache}
  {name : String} {o : Object}

theorem made_get (made : cache.made? name = some o) (k : String) :
    (cache.get k).1.made? name = some o ∧ (cache.get k).1.callsOf name = cache.callsOf name := by
  by_cases own : name = k
  · subst own
    rw [get_of_made made]
    exact ⟨made, rfl⟩
  · obtain ⟨stored, node⟩ := made?_eq_some_iff.1 made
    obtain ⟨same, calls⟩ := get_other cache own
    exact ⟨made?_eq_some_iff.2 ⟨same.trans stored, node⟩, calls⟩

/-- A fragment that is made stays as it is, whatever operations follow. -/
theorem made_performAll (made : cache.made? name = some o) (operations : List Operation) :
    (cache.performAll operations).1.callsOf name = cache.callsOf name ∧
      ∀ result, .accessed name result ∈ (cache.performAll operations).2 → result = .ok o := by
  have lasts := performAll_induction
    (motive := fun history later => later.made? name = some o ∧
      later.callsOf name = cache.callsOf name ∧
      ∀ result, .accessed name result ∈ history → result = .ok o)
    ?access ?ask ?list [] cache
    ⟨made, rfl, fun _ mem => by cases mem⟩ operations
  case access =>
    rintro history later k ⟨made, calls, results⟩
    obtain ⟨made', calls'⟩ := made_get made k
    refine ⟨made', calls'.trans calls, fun result mem => ?_⟩
    rcases List.mem_append.1 mem with before | now
    · exact results result before
    · obtain ⟨rfl, rfl⟩ : name = k ∧ result = (later.get k).2 := by simpa using now
      rw [get_of_made made]
  case ask =>
    rintro history later k ⟨made, calls, results⟩
    exact ⟨made, calls, fun result mem => results result (by simpa using mem)⟩
  case list =>
    rintro history later ⟨made, calls, results⟩
    exact ⟨made, calls, fun result mem => results result (by simpa using mem)⟩
  exact lasts.2

namespace Stores

theorem access (stores : Stores builders history cache) (name : String) :
    Stores builders (history ++ [.accessed name (cache.get name).2]) (cache.get name).1 := by
  refine ⟨(builders_get cache name).trans stores.registered, ?answered, ?returned⟩
  case answered =>
    intro k o stored
    by_cases own : k = name
    · subst own
      rcases get_cases cache k with ⟨_, _, got⟩ | ⟨_, _, got⟩ |
        ⟨builder, _, found, ⟨_, _, got⟩ | ⟨o', answer, got⟩⟩ <;> rw [got] at stored
      · exact stores.answered k o stored
      · exact stores.answered k o stored
      · exact stores.answered k o stored
      · rw [find?_store, if_pos rfl] at stored
        cases stored
        exact ⟨builder, _, stores.registered ▸ found, answer⟩
    · rw [(get_other cache own).1] at stored
      exact stores.answered k o stored
  case returned =>
    intro k o mem node
    rcases List.mem_append.1 mem with before | now
    · exact (made_get (stores.returned k o before node) name).1
    · obtain ⟨rfl, result⟩ : k = name ∧ .ok o = (cache.get name).2 := by simpa using now
      refine made?_eq_some_iff.2 ⟨?_, node⟩
      rcases get_cases cache k with ⟨o', made, got⟩ | ⟨_, _, got⟩ |
        ⟨_, _, _, ⟨_, _, got⟩ | ⟨o', _, got⟩⟩ <;> rw [got] at result ⊢ <;> cases result
      · exact find?_of_made? made
      · rw [find?_store, if_pos rfl]

theorem of_performAll (builders : Table String Builder) (firstIdentity : Identity)
    (operations : List Operation) :
    Stores builders ((new builders firstIdentity).performAll operations).2
      ((new builders firstIdentity).performAll operations).1 := by
  refine performAll_induction (motive := Stores builders)
    (fun _ _ name stores => stores.access name) ?ask ?list [] _ ?start operations
  case ask =>
    intro history cache name stores
    exact ⟨stores.registered, stores.answered,
      fun k o mem => stores.returned k o (by simpa using mem)⟩
  case list =>
    intro history cache stores
    exact ⟨stores.registered, stores.answered,
      fun k o mem => stores.returned k o (by simpa using mem)⟩
  case start =>
    exact ⟨rfl, fun _ _ stored => (by cases stored), fun _ _ mem => (by cases mem)⟩

end Stores

/-- Whatever the builders return and whatever has been done with the cache, a fragment that it calls
built is not built again and returned by every access from now on, if it is a node; and only then.  A
builder that returns nodes has stored one. -/
theorem lasting_iff_node (builders : Table String Builder) (firstIdentity : Identity)
    (operations : List Operation) (name : String) :
    let run := (new builders firstIdentity).performAll operations
    run.1.isBuilt name = true →
    ∃ o, run.1.fragments.find? name = some o ∧
      ((∀ later, (run.1.performAll later).1.callsOf name = run.1.callsOf name ∧
        ∀ result, .accessed name result ∈ (run.1.performAll later).2 → result = .ok o) ↔
        o.isNull = false) ∧
      (∀ o', .accessed name (.ok o') ∈ run.2 → o'.isNull = false → o' = o) ∧
      ((∀ builder, builders.find? name = some builder → ReturnsNodes builder) →
        o.isNull = false) := by
  intro run built
  have stores : Stores builders run.2 run.1 := .of_performAll builders firstIdentity operations
  obtain ⟨o, stored⟩ := (isBuilt_iff _ _).1 built
  obtain ⟨builder, call, found, answer⟩ := stores.answered name o stored
  refine ⟨o, stored, ⟨fun lasts => ?_, fun node => ?_⟩, fun o' mem node => ?_, fun nodes => ?_⟩
  · by_contra null
    have missing : run.1.made? name = none := by
      rw [made?, stored]
      exact if_pos (eq_true_of_ne_false null)
    have calls := (lasts [.get name]).1
    rw [← stores.registered] at found
    have again : (run.1.get name).1.callsOf name = run.1.callsOf name + 1 := by
      rw [get_of_missing missing found]
      cases answer : (run.1.call name builder).2 with
      | error e => rw [build_of_failure answer, callsOf_call, if_pos rfl]
      | ok o => rw [build_of_answer answer, callsOf_store, callsOf_call, if_pos rfl]
    exact absurd (again.symm.trans calls) (Nat.succ_ne_self _)
  · intro later
    exact made_performAll (made?_eq_some_iff.2 ⟨stored, node⟩) later
  · have stored' := find?_of_made? (stores.returned name o' mem node)
    exact Option.some.inj (stored'.symm.trans stored)
  · exact nodes builder found call o answer

/-- A builder that returns null at first, then raises, and then returns a node. -/
theorem lasting_iff_node_late :
    let builder : Builder := fun call =>
      if call.earlier = 0 then .ok ⟨call.fresh, .foreign .null⟩
      else if call.earlier = 1 then .error (.failed "not yet")
      else .ok ⟨call.fresh, .text "x"⟩
    let builders : Table String Builder := ⟨[("a", builder)], by decide⟩
    let run := (new builders 0).performAll [.get "a", .get "a", .warm, .isBuilt "a"]
    run.1.isBuilt "a" = true ∧
    ∀ later, (run.1.performAll later).1.callsOf "a" = run.1.callsOf "a" ∧
      ∀ result, .accessed "a" result ∈ (run.1.performAll later).2 → result = .ok ⟨2, .text "x"⟩ := by
  intro builder builders run
  have built : run.1.isBuilt "a" = true := rfl
  obtain ⟨o, stored, lasts, _⟩ := lasting_iff_node builders 0 _ "a" built
  cases (show some (⟨2, .text "x"⟩ : Object) = some o from stored)
  exact ⟨built, lasts.2 rfl⟩

/-- A builder that returns null is called by the access after it was called built. -/
theorem null_called_again :
    let builders : Table String Builder := ⟨[("a", fun _ => .ok ⟨0, .foreign .null⟩)], by decide⟩
    let built := ((new builders 0).performAll [.get "a"]).1
    let later := (built.performAll [.get "a"]).1
    built.isBuilt "a" = true ∧ built.callsOf "a" = 1 ∧ later.callsOf "a" = 2 :=
  ⟨rfl, rfl, rfl⟩

end Runs
end DocPages.FragmentCache
