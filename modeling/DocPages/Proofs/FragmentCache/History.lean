import DocPages.Proofs.FragmentCache.Interleaved
/-! # Histories of a cache

A cache that is used from one place serves one operation after the other, also behind one that failed.
The history lists every access with its answer, those that a warm-up makes one by one, and what the
cache told about itself.  What holds at the start and is kept by one more entry holds after any
operations (`performAll_induction`). -/
set_option autoImplicit false
namespace DocPages.FragmentCache

/-! ## What one access does -/

theorem isBuilt_iff (cache : FragmentCache) (name : String) :
    cache.isBuilt name = true ↔ ∃ o, cache.fragments.find? name = some o := by
  rw [isBuilt, Table.contains_iff]
  cases found : cache.fragments.find? name with
  | none => simpa using (Table.find?_eq_none_iff _ _).1 found
  | some o => exact iff_of_true (Table.mem_keys_of_find? found) ⟨o, rfl⟩

theorem made?_eq_some_iff {cache : FragmentCache} {name : String} {o : Object} :
    cache.made? name = some o ↔ cache.fragments.find? name = some o ∧ o.isNull = false := by
  constructor
  · intro made
    have stored := find?_of_made? made
    refine ⟨stored, ?_⟩
    rw [made?, stored] at made
    by_contra null
    simp [null] at made
  · rintro ⟨stored, node⟩
    simp [made?, stored, node]

section Access
variable {cache : FragmentCache} {name : String} {o : Object} {builder : Builder}

theorem get_of_made (made : cache.made? name = some o) : cache.get name = (cache, .ok o) := by
  rw [get, made]

theorem get_of_unknown (missing : cache.made? name = none)
    (unknown : cache.builders.find? name = none) :
    cache.get name = (cache, .error (.unknown name cache.names)) := by
  rw [get, missing, unknown]

theorem get_of_missing (missing : cache.made? name = none)
    (registered : cache.builders.find? name = some builder) :
    cache.get name = cache.build name builder := by
  rw [get, missing, registered]

theorem build_of_answer (answer : (cache.call name builder).2 = .ok o) :
    cache.build name builder = ((cache.call name builder).1.store name o, .ok o) := by
  rcases called : cache.call name builder with ⟨next, e | o'⟩
  · rw [called] at answer
    cases answer
  · rw [called] at answer
    cases answer
    rw [build, called]

theorem build_of_failure {e : FragmentError} (answer : (cache.call name builder).2 = .error e) :
    cache.build name builder = ((cache.call name builder).1, .error e) := by
  rcases called : cache.call name builder with ⟨next, e' | o⟩
  · rw [called] at answer
    cases answer
    rw [build, called]
  · rw [called] at answer
    cases answer

/-- All that an access can come to. -/
theorem get_cases (cache : FragmentCache) (name : String) :
    (∃ o, cache.made? name = some o ∧ cache.get name = (cache, .ok o)) ∨
    (cache.made? name = none ∧ cache.builders.find? name = none ∧
      cache.get name = (cache, .error (.unknown name cache.names))) ∨
    ∃ builder, cache.made? name = none ∧ cache.builders.find? name = some builder ∧
      ((∃ e, (cache.call name builder).2 = .error e ∧
          cache.get name = ((cache.call name builder).1, .error e)) ∨
        ∃ o, (cache.call name builder).2 = .ok o ∧
          cache.get name = ((cache.call name builder).1.store name o, .ok o)) := by
  cases missing : cache.made? name with
  | some o => exact Or.inl ⟨o, rfl, get_of_made missing⟩
  | none =>
    right
    cases registered : cache.builders.find? name with
    | none => exact Or.inl ⟨rfl, rfl, get_of_unknown missing registered⟩
    | some builder =>
      refine Or.inr ⟨builder, rfl, rfl, ?_⟩
      rw [get_of_missing missing registered]
      cases answer : (cache.call name builder).2 with
      | error e => exact Or.inl ⟨e, rfl, build_of_failure answer⟩
      | ok o => exact Or.inr ⟨o, rfl, build_of_answer answer⟩

end Access

theorem builders_get (cache : FragmentCache) (name : String) :
    (cache.get name).1.builders = cache.builders := by
  rcases get_cases cache name with ⟨_, _, got⟩ | ⟨_, _, got⟩ |
    ⟨_, _, _, ⟨_, _, got⟩ | ⟨_, _, got⟩⟩ <;> rw [got] <;> rfl

theorem get_other (cache : FragmentCache) {name k : String} (other : k ≠ name) :
    (cache.get name).1.fragments.find? k = cache.fragments.find? k ∧
      (cache.get name).1.callsOf k = cache.callsOf k := by
  rcases get_cases cache name with ⟨_, _, got⟩ | ⟨_, _, got⟩ |
    ⟨_, _, _, ⟨_, _, got⟩ | ⟨_, _, got⟩⟩ <;> rw [got]
  · exact ⟨rfl, rfl⟩
  · exact ⟨rfl, rfl⟩
  · exact ⟨rfl, by rw [callsOf_call, if_neg other]⟩
  · refine ⟨by rw [find?_store, if_neg other]; rfl, ?_⟩
    rw [callsOf_store, callsOf_call, if_neg other]

theorem get_failed {cache after : FragmentCache} {name : String} {e : FragmentError}
    (failed : cache.get name = (after, .error e)) :
    after.fragments = cache.fragments ∧ ∀ k, k ≠ name → after.callsOf k = cache.callsOf k := by
  constructor
  · rcases get_cases cache name with ⟨_, _, got⟩ | ⟨_, _, got⟩ |
      ⟨_, _, _, ⟨_, _, got⟩ | ⟨_, _, got⟩⟩ <;> rw [failed] at got <;> cases got <;> rfl
  · intro k other
    have calls := (get_other cache other).2
    rwa [failed] at calls

/-! ## Histories -/

inductive Operation
  | get (name : String)
  | warm
  | isBuilt (name : String)
  | names

inductive Entry
  | accessed (name : String) (result : Except FragmentError Object)
  /-- whether a fragment is built -/
  | told (name : String) (built : Bool)
  | listed (names : List String)

def accesses (cache : FragmentCache) : List String → List Entry
  | [] => []
  | name :: rest =>
    match cache.get name with
    | (next, .ok o) => .accessed name (.ok o) :: next.accesses rest
    | (_, .error e) => [.accessed name (.error e)]

def perform (cache : FragmentCache) : Operation → FragmentCache × List Entry
  | .get name => ((cache.get name).1, [.accessed name (cache.get name).2])
  | .warm => (cache.warm.1, cache.accesses cache.names)
  | .isBuilt name => (cache, [.told name (cache.isBuilt name)])
  | .names => (cache, [.listed cache.names])

/-- Performs the operations in turn; one that fails does not stop the others. -/
def performAll (cache : FragmentCache) : List Operation → FragmentCache × List Entry
  | [] => (cache, [])
  | operation :: rest =>
    let (next, entries) := cache.perform operation
    let (last, later) := performAll next rest
    (last, entries ++ later)

section Induction
variable {motive : List Entry → FragmentCache → Prop}
  (access : ∀ history cache name, motive history cache →
    motive (history ++ [.accessed name (cache.get name).2]) (cache.get name).1)
  (ask : ∀ history cache name, motive history cache →
    motive (history ++ [.told name (cache.isBuilt name)]) cache)
  (list : ∀ history cache, motive history cache →
    motive (history ++ [.listed cache.names]) cache)
include access

/-- A warm-up is a run of single accesses. -/
theorem getAll_induction {history : List Entry} {cache : FragmentCache}
    (start : motive history cache) (names : List String) :
    motive (history ++ cache.accesses names) (cache.getAll names).1 := by
  induction names generalizing history cache with
  | nil => simpa [accesses, getAll] using start
  | cons name rest ih =>
    have first := access history cache name start
    rcases got : cache.get name with ⟨next, e | o⟩
    · rw [got] at first
      simpa only [accesses, getAll, got] using first
    · rw [got] at first
      have later := ih first
      simpa only [accesses, getAll, got, List.append_assoc, List.singleton_append] using later

include ask list

theorem performAll_induction (history : List Entry) (cache : FragmentCache)
    (start : motive history cache) (operations : List Operation) :
    motive (history ++ (cache.performAll operations).2) (cache.performAll operations).1 := by
  induction operations generalizing history cache with
  | nil => simpa [performAll] using start
  | cons operation rest ih =>
    have first : motive (history ++ (cache.perform operation).2) (cache.perform operation).1 := by
      cases operation with
      | get name => exact access history cache name start
      | warm => exact getAll_induction access start cache.names
      | isBuilt name => exact ask history cache name start
      | names => exact list history cache start
    simpa only [performAll, List.append_assoc] using ih _ _ first

end Induction

end DocPages.FragmentCache
