import DocPages.Proofs.FragmentCache.History
/-! # Accounts of a cache

Where every builder fails a known number of times and then returns a node, the history of a cache tells
all that there is to know of it.  A fragment is built by the access after the last failure, and neither
earlier nor later accesses matter (`Accounts`).  As the accesses of a warm-up are in the history like any
others, a warm-up that a failure has cut short needs no case of its own. -/
set_option autoImplicit false
namespace DocPages.FragmentCache

/-- A builder that raises in its first `n` calls and returns a node from then on. -/
structure FailsFirst (n : Nat) (builder : Builder) : Prop where
  raises : ∀ call, call.earlier < n → ∃ e, builder call = .error e
  returns : ∀ call, n ≤ call.earlier → ∃ o, builder call = .ok o ∧ o.isNull = false

def Entry.isAccess (name : String) : Entry → Bool
  | .accessed k _ => k == name
  | _ => false

def accessCount (name : String) (history : List Entry) : Nat := history.countP (Entry.isAccess name)

theorem accessCount_append (name : String) (history : List Entry) (e : Entry) :
    accessCount name (history ++ [e]) =
      accessCount name history + if e.isAccess name = true then 1 else 0 := by
  rw [accessCount, List.countP_append, List.countP_singleton]
  rfl

/-- What a history tells of a cache whose builder for `name` fails `fails name` times. -/
structure Accounts (builders : Table String Builder) (fails : String → Nat) (history : List Entry)
    (cache : FragmentCache) : Prop where
  registered : cache.builders = builders
  called : ∀ name ∈ builders.keys,
    cache.callsOf name = min (accessCount name history) (fails name + 1)
  built : ∀ name ∈ builders.keys,
    (cache.isBuilt name = true ↔ fails name < accessCount name history)
  nodes : ∀ name o, cache.fragments.find? name = some o → o.isNull = false
  /-- All accesses that returned have returned the object that is stored. -/
  shared : ∀ name o, .accessed name (.ok o) ∈ history → cache.fragments.find? name = some o
  told : ∀ before name answer after, history = before ++ .told name answer :: after →
    name ∈ builders.keys → (answer = true ↔ fails name < accessCount name before)
  listed : ∀ names, .listed names ∈ history → names = builders.keys

section Runs
variable {builders : Table String Builder} {fails : String → Nat} {history : List Entry}
  {cache : FragmentCache} {name : String}

theorem accounts_new (builders : Table String Builder) (firstIdentity : Identity)
    (fails : String → Nat) : Accounts builders fails [] (.new builders firstIdentity) where
  registered := rfl
  called := fun name _ => (Nat.zero_min _).symm
  built := fun name _ => by
    rw [isBuilt_iff]
    constructor
    · rintro ⟨o, stored⟩
      cases stored
    · intro less
      exact absurd less (Nat.not_lt_zero _)
  nodes := fun name o stored => by cases stored
  shared := fun name o mem => by cases mem
  told := fun before name answer after split => by simp at split
  listed := fun names mem => by cases mem

theorem split_of_append {before after : List Entry} {last e : Entry}
    (split : history ++ [last] = before ++ e :: after) :
    (∃ earlier, history = before ++ e :: earlier) ∨ history = before ∧ last = e := by
  rcases List.eq_nil_or_concat after with rfl | ⟨earlier, final, rfl⟩
  · obtain ⟨same, only⟩ := List.append_inj' split rfl
    exact Or.inr ⟨same, by simpa using only⟩
  · rw [List.concat_eq_append, ← List.cons_append, ← List.append_assoc] at split
    exact Or.inl ⟨earlier, (List.append_inj' split rfl).1⟩

namespace Accounts

theorem called_of_missing (accounts : Accounts builders fails history cache)
    (known : name ∈ builders.keys) (missing : cache.made? name = none) :
    accessCount name history ≤ fails name ∧ cache.callsOf name = accessCount name history := by
  have unbuilt : ¬ cache.isBuilt name = true := by
    intro built
    obtain ⟨o, stored⟩ := (isBuilt_iff _ _).1 built
    rw [made?_eq_some_iff.2 ⟨stored, accounts.nodes name o stored⟩] at missing
    cases missing
  have few := Nat.not_lt.1 (mt (accounts.built name known).2 unbuilt)
  refine ⟨few, ?_⟩
  rw [accounts.called name known, Nat.min_eq_left (Nat.le_succ_of_le few)]

theorem answer_of_missing (accounts : Accounts builders fails history cache)
    (each : ∀ name builder, builders.find? name = some builder → FailsFirst (fails name) builder)
    {builder : Builder} (found : cache.builders.find? name = some builder)
    (missing : cache.made? name = none) :
    (∀ e, (cache.call name builder).2 = .error e → accessCount name history < fails name) ∧
    ∀ o, (cache.call name builder).2 = .ok o →
      accessCount name history = fails name ∧ o.isNull = false := by
  rw [accounts.registered] at found
  have known := Table.mem_keys_of_find? found
  obtain ⟨few, calls⟩ := accounts.called_of_missing known missing
  obtain ⟨raises, returns⟩ := each name builder found
  let call : Call := ⟨cache.callsOf name, cache.nextIdentity, cache.made⟩
  have earlier : call.earlier = accessCount name history := calls
  by_cases less : accessCount name history < fails name
  · obtain ⟨e, answer⟩ := raises call (earlier ▸ less)
    refine ⟨fun _ _ => less, fun o answer' => ?_⟩
    exact nomatch answer.symm.trans answer'
  · obtain ⟨o, answer, node⟩ := returns call (earlier ▸ Nat.not_lt.1 less)
    refine ⟨fun e answer' => (nomatch answer.symm.trans answer'), fun o' answer' => ?_⟩
    cases answer.symm.trans answer'
    exact ⟨Nat.le_antisymm few (Nat.not_lt.1 less), node⟩

theorem accessed (accounts : Accounts builders fails history cache)
    (called : name ∈ builders.keys →
      (cache.get name).1.callsOf name = min (accessCount name history + 1) (fails name + 1))
    (built : name ∈ builders.keys →
      ((cache.get name).1.isBuilt name = true ↔ fails name < accessCount name history + 1))
    (nodes : ∀ o, (cache.get name).1.fragments.find? name = some o → o.isNull = false)
    (kept : ∀ o, cache.fragments.find? name = some o →
      (cache.get name).1.fragments.find? name = some o)
    (shared : ∀ o, (cache.get name).2 = .ok o → (cache.get name).1.fragments.find? name = some o) :
    Accounts builders fails (history ++ [.accessed name (cache.get name).2]) (cache.get name).1 := by
  have others {k : String} (other : k ≠ name) := get_other cache other
  have counts (k : String) : accessCount k (history ++ [.accessed name (cache.get name).2]) =
      accessCount k history + if name = k then 1 else 0 := by
    simp [accessCount_append, Entry.isAccess]
  refine ⟨(builders_get cache name).trans accounts.registered, ?called, ?built, ?nodes, ?shared,
    ?told, ?listed⟩
  case called =>
    intro k known
    by_cases own : name = k
    · subst own
      rw [counts, if_pos rfl]
      exact called known
    · rw [counts, if_neg own, (others (Ne.symm own)).2]
      exact accounts.called k known
  case built =>
    intro k known
    by_cases own : name = k
    · subst own
      rw [counts, if_pos rfl]
      exact built known
    · rw [counts, if_neg own, isBuilt_iff, (others (Ne.symm own)).1, ← isBuilt_iff]
      exact accounts.built k known
  case nodes =>
    intro k o stored
    by_cases own : k = name
    · subst own
      exact nodes o stored
    · exact accounts.nodes k o ((others own).1 ▸ stored)
  case shared =>
    intro k o mem
    rcases List.mem_append.1 mem with before | now
    · have stored := accounts.shared k o before
      by_cases own : k = name
      · subst own
        exact kept o stored
      · rw [(others own).1]
        exact stored
    · obtain ⟨rfl, result⟩ : k = name ∧ .ok o = (cache.get name).2 := by simpa using now
      exact shared o result.symm
  case told =>
    intro before k answer after split
    rcases split_of_append split with ⟨earlier, split⟩ | ⟨_, unlike⟩
    · exact accounts.told before k answer earlier split
    · cases unlike
  case listed =>
    intro names mem
    rcases List.mem_append.1 mem with before | now
    · exact accounts.listed names before
    · cases List.mem_singleton.1 now

theorem access (accounts : Accounts builders fails history cache)
    (each : ∀ name builder, builders.find? name = some builder → FailsFirst (fails name) builder)
    (name : String) :
    Accounts builders fails (history ++ [.accessed name (cache.get name).2])
      (cache.get name).1 := by
  have stays := accounts.nodes name
  rcases get_cases cache name with ⟨o, made, got⟩ | ⟨missing, unknown, got⟩ |
    ⟨builder, missing, found, ⟨e, answer, got⟩ | ⟨o, answer, got⟩⟩
  · have stored := find?_of_made? made
    have enough (known : name ∈ builders.keys) : fails name < accessCount name history :=
      (accounts.built name known).1 ((isBuilt_iff _ _).2 ⟨o, stored⟩)
    refine accounts.accessed ?_ ?_ ?_ ?_ ?_ <;> rw [got]
    · intro known
      have more := enough known
      rw [accounts.called name known]
      omega
    · intro known
      have more := enough known
      exact iff_of_true ((isBuilt_iff _ _).2 ⟨o, stored⟩) (Nat.lt_succ_of_lt more)
    · exact stays
    · exact fun _ there => there
    · rintro _ ⟨⟩
      exact stored
  · have unregistered : name ∉ builders.keys := by
      rwa [accounts.registered, Table.find?_eq_none_iff] at unknown
    refine accounts.accessed ?_ ?_ ?_ ?_ ?_ <;> rw [got]
    · exact fun known => absurd known unregistered
    · exact fun known => absurd known unregistered
    · exact stays
    · exact fun _ there => there
    · exact fun _ result => nomatch result
  · have less := (accounts.answer_of_missing each found missing).1 e answer
    refine accounts.accessed ?_ ?_ ?_ ?_ ?_ <;> rw [got]
    · intro known
      rw [callsOf_call, if_pos rfl, (accounts.called_of_missing known missing).2]
      omega
    · intro known
      have unbuilt := mt (accounts.built name known).1 (Nat.not_lt.2 (Nat.le_of_lt less))
      exact iff_of_false unbuilt (Nat.not_lt.2 less)
    · exact stays
    · exact fun _ there => there
    · exact fun _ result => nomatch result
  · obtain ⟨same, node⟩ := (accounts.answer_of_missing each found missing).2 o answer
    have stored : ((cache.call name builder).1.store name o).fragments.find? name = some o := by
      rw [find?_store, if_pos rfl]
    refine accounts.accessed ?_ ?_ ?_ ?_ ?_ <;> rw [got]
    · intro known
      rw [callsOf_store, callsOf_call, if_pos rfl, (accounts.called_of_missing known missing).2, same]
      omega
    · intro known
      exact iff_of_true ((isBuilt_iff _ _).2 ⟨o, stored⟩) (by omega)
    · intro o' stored'
      cases stored.symm.trans stored'
      exact node
    · intro o' there
      rw [made?_eq_some_iff.2 ⟨there, stays o' there⟩] at missing
      cases missing
    · rintro _ ⟨⟩
      exact stored

theorem noted (accounts : Accounts builders fails history cache) {e : Entry}
    (quiet : ∀ k, e.isAccess k = false)
    (told : ∀ k answer, e = .told k answer → answer = cache.isBuilt k)
    (listed : ∀ names, e = .listed names → names = cache.names) :
    Accounts builders fails (history ++ [e]) cache := by
  have counts (k : String) : accessCount k (history ++ [e]) = accessCount k history := by
    simp [accessCount_append, quiet]
  refine ⟨accounts.registered, ?called, ?built, accounts.nodes, ?shared, ?told, ?listed⟩
  case called =>
    intro k known
    rw [counts]
    exact accounts.called k known
  case built =>
    intro k known
    rw [counts]
    exact accounts.built k known
  case shared =>
    intro k o mem
    rcases List.mem_append.1 mem with before | now
    · exact accounts.shared k o before
    · have access := quiet k
      rw [← List.mem_singleton.1 now] at access
      simp [Entry.isAccess] at access
  case told =>
    intro before k answer after split known
    rcases split_of_append split with ⟨earlier, split⟩ | ⟨rfl, last⟩
    · exact accounts.told before k answer earlier split known
    · rw [told k answer last]
      exact accounts.built k known
  case listed =>
    intro names mem
    rcases List.mem_append.1 mem with before | now
    · exact accounts.listed names before
    · rw [listed names (List.mem_singleton.1 now).symm, FragmentCache.names, accounts.registered]

theorem ask (accounts : Accounts builders fails history cache) (name : String) :
    Accounts builders fails (history ++ [.told name (cache.isBuilt name)]) cache :=
  accounts.noted (fun _ => rfl) (by rintro _ _ ⟨⟩; rfl) (by rintro _ ⟨⟩)

theorem list (accounts : Accounts builders fails history cache) :
    Accounts builders fails (history ++ [.listed cache.names]) cache :=
  accounts.noted (fun _ => rfl) (by rintro _ _ ⟨⟩) (by rintro _ ⟨⟩; rfl)

end Accounts

/-- However often a cache is used and whichever builders fail on the way, its history accounts for it;
and an access that fails leaves what is built and stored and has called no other builder. -/
theorem accounts_of_history (builders : Table String Builder) (firstIdentity : Identity)
    (fails : String → Nat)
    (each : ∀ name builder, builders.find? name = some builder → FailsFirst (fails name) builder)
    (operations : List Operation) :
    let run := (new builders firstIdentity).performAll operations
    Accounts builders fails run.2 run.1 ∧
    ∀ (cache after : FragmentCache) (name : String) (e : FragmentError),
      cache.get name = (after, .error e) →
      (∀ k, after.isBuilt k = cache.isBuilt k ∧
        after.fragments.find? k = cache.fragments.find? k) ∧
      ∀ k, k ≠ name → after.callsOf k = cache.callsOf k := by
  refine ⟨?_, fun cache after name e failed => ?_⟩
  · exact performAll_induction (motive := Accounts builders fails)
      (fun _ _ name accounts => accounts.access each name) (fun _ _ name accounts => accounts.ask name)
      (fun _ _ accounts => accounts.list) [] _ (accounts_new builders firstIdentity fails) operations
  · obtain ⟨same, calls⟩ := get_failed failed
    refine ⟨fun k => ⟨?_, by rw [same]⟩, calls⟩
    rw [isBuilt, same]
    rfl

/-- Two warm-ups are cut short, by the first builder and then by the last, and the next one resumes. -/
theorem accounts_of_history_resumed :
    let failing (n : Nat) : Builder := fun call =>
      if call.earlier < n then .error (.failed "not yet") else .ok ⟨call.fresh, .text "x"⟩
    let fails (name : String) : Nat := if name = "a" then 1 else if name = "c" then 2 else 0
    let builders : Table String Builder :=
      ⟨[("a", failing 1), ("b", failing 0), ("c", failing 2)], by decide⟩
    let run := (new builders 0).performAll
      [.get "z", .warm, .isBuilt "a", .warm, .get "c", .isBuilt "c", .warm, .get "a", .names]
    (∀ name builder, builders.find? name = some builder → FailsFirst (fails name) builder) ∧
    Accounts builders fails run.2 run.1 ∧
    ["a", "b", "c"].map (accessCount · run.2) = [4, 2, 3] ∧
    ["a", "b", "c"].map run.1.callsOf = [2, 1, 3] := by
  intro failing fails builders run
  have failsFirst (n : Nat) : FailsFirst n (failing n) :=
    ⟨fun call less => ⟨_, if_pos less⟩, fun call enough => ⟨_, if_neg (Nat.not_lt.2 enough), rfl⟩⟩
  have each : ∀ name builder, builders.find? name = some builder →
      FailsFirst (fails name) builder := by
    intro name builder found
    rw [Table.find?_eq_some_iff] at found
    simp only [builders, List.mem_cons, Prod.mk.injEq, List.not_mem_nil, or_false] at found
    rcases found with ⟨rfl, rfl⟩ | ⟨rfl, rfl⟩ | ⟨rfl, rfl⟩
    · exact failsFirst 1
    · exact failsFirst 0
    · exact failsFirst 2
  refine ⟨each, (accounts_of_history builders 0 fails each _).1, ?_, ?_⟩
  · clear each failsFirst
    decide +kernel +revert +zetaReduce
  · clear each failsFirst
    decide +kernel +revert +zetaReduce

end Runs
end DocPages.FragmentCache
