import DocPages.Proofs.FragmentCache.Interleaved
/-! # Fragments are built once under every schedule

At each point of an access something is known of the cache: after the second read that the fragment is
not stored, after the store that it is (`Fits`).  Another access cannot spoil it, as only the holder of
the lock stores and it stores only what was missing.  Together with what the history tells of the
accesses this is an invariant of all steps (`Invariant.of_step`), and it makes the cache safe
(`Invariant.safe`). -/
set_option autoImplicit false
namespace DocPages.FragmentCache

def ReturnsNodes (builder : Builder) : Prop :=
  ∀ call o, builder call = .ok o → o.isNull = false

def Event.isAnswer : Event → Bool
  | .answered _ => true
  | .stored _ => false

def Event.isNormal : Event → Bool
  | .answered (.ok _) => true
  | _ => false

/-- The object of an access that has found it stored or has stored it. -/
@[simp]
def Progress.object? : Progress → Option Object
  | .ready o => some o
  | .leaving o => some o
  | .returned o => some o
  | _ => none

/-- What an access will end with, once this is settled. -/
@[simp]
def Progress.outcome? : Progress → Option (Except FragmentError Object)
  | .made o => some (.ok o)
  | .ready o => some (.ok o)
  | .leaving o => some (.ok o)
  | .returned o => some (.ok o)
  | .failed e => some (.error e)
  | .raised e => some (.error e)
  | _ => none

/-- What is known at a point of an access for `name`. -/
def Fits (cache : FragmentCache) (name : String) (holding : Prop) : Progress → Prop
  | .entered => ¬ holding
  | .missed => ¬ holding
  | .found builder => ¬ holding ∧ cache.builders.find? name = some builder
  | .locked builder => holding ∧ cache.builders.find? name = some builder
  | .absent builder =>
    holding ∧ cache.builders.find? name = some builder ∧ cache.fragments.find? name = none
  | .made o => holding ∧ o.isNull = false ∧ cache.fragments.find? name = none
  | .ready o => holding ∧ cache.fragments.find? name = some o
  | .failed _ => holding
  | .leaving o => ¬ holding ∧ cache.fragments.find? name = some o
  | .returned o => ¬ holding ∧ cache.fragments.find? name = some o
  | .raised _ => ¬ holding

/-- What an event in the history of an access tells about how far it has come. -/
def Past (p : Progress) : Event → Prop
  | .answered answer => p.outcome? = some answer
  | .stored o => p.object? = some o

theorem Past.advance {p q : Progress}
    (outcome : ∀ answer, p.outcome? = some answer → q.outcome? = some answer)
    (object : ∀ o, p.object? = some o → q.object? = some o) {e : Event} (past : Past p e) :
    Past q e := by
  cases e with
  | answered answer => exact outcome answer past
  | stored o => exact object o past

theorem Progress.made_or_object? {p : Progress} {o : Object} (h : p.outcome? = some (.ok o)) :
    p = .made o ∨ p.object? = some o := by
  cases p <;> simp_all

theorem Progress.failed_or_raised {p : Progress} {e : FragmentError}
    (h : p.outcome? = some (.error e)) : p = .failed e ∨ p = .raised e := by
  cases p <;> simp_all

section Points
variable {cache cache' : FragmentCache} {name : String} {holding holding' : Prop} {p : Progress}

theorem Fits.holding_iff (fits : Fits cache name holding p) : holding ↔ p.isInside = true := by
  cases p <;> simp_all [Fits, Progress.isInside]

theorem Fits.stored {o : Object} (fits : Fits cache name holding p) (h : p.object? = some o) :
    cache.fragments.find? name = some o := by
  cases p <;> simp_all [Fits]

theorem Fits.frame (fits : Fits cache name holding p) (lock : holding' ↔ holding)
    (builders : cache'.builders = cache.builders)
    (kept : ∀ o, cache.fragments.find? name = some o → cache'.fragments.find? name = some o)
    (own : holding → cache'.fragments.find? name = cache.fragments.find? name) :
    Fits cache' name holding' p := by
  cases p <;> simp_all [Fits]

end Points

section Runs
variable {ι : Type} {asked : ι → String}

def State.count (s : State ι) (asked : ι → String) (name : String) (kind : Event → Bool) : Nat :=
  s.history.countP fun e => asked e.1 = name && kind e.2

@[simp] theorem count_withCache (s : State ι) (cache : FragmentCache) (name : String)
    (kind : Event → Bool) : (s.withCache cache).count asked name kind = s.count asked name kind := rfl

@[simp] theorem count_move [DecidableEq ι] (s : State ι) (i : ι) (p : Progress) (name : String)
    (kind : Event → Bool) : (s.move i p).count asked name kind = s.count asked name kind := rfl

structure Invariant (asked : ι → String) (s : State ι) : Prop where
  builders : ∀ name builder, s.cache.builders.find? name = some builder → ReturnsNodes builder
  nodes : ∀ name o, s.cache.fragments.find? name = some o → o.isNull = false
  fits : ∀ i, Fits s.cache (asked i) (s.holder = some i) (s.progress i)
  past : ∀ i e, (i, e) ∈ s.history → Past (s.progress i) e
  once : ∀ name, s.count asked name Event.isNormal ≤ 1
  called : ∀ name, s.cache.callsOf name = s.count asked name Event.isAnswer
  stored : ∀ name o, s.cache.fragments.find? name = some o ↔
    ∃ i, asked i = name ∧ (i, .stored o) ∈ s.history

theorem count_record (s : State ι) (i : ι) (e : Event) (name : String) (kind : Event → Bool) :
    (s.record i e).count asked name kind =
      s.count asked name kind + if asked i = name && kind e then 1 else 0 := by
  simp [State.count, List.countP_append, List.countP_singleton]

theorem invariant_start {builders : Table String Builder} (firstIdentity : Identity)
    (nodes : ∀ name builder, builders.find? name = some builder → ReturnsNodes builder) :
    Invariant asked (start builders firstIdentity) where
  builders := nodes
  nodes := fun name o stored => by cases stored
  fits := fun i => by simp [start, Fits]
  past := fun i e h => by cases h
  once := fun name => Nat.zero_le 1
  called := fun name => rfl
  stored := fun name o => by
    constructor
    · intro h; cases h
    · rintro ⟨_, _, h⟩; cases h

namespace Invariant
variable {s : State ι} {i : ι}

theorem exclusive (inv : Invariant asked s) {j : ι} (hi : (s.progress i).isInside = true)
    (hj : (s.progress j).isInside = true) : i = j := by
  have holdsI := (inv.fits i).holding_iff.2 hi
  have holdsJ := (inv.fits j).holding_iff.2 hj
  exact Option.some.inj (holdsI.symm.trans holdsJ)

theorem count_eq_zero (inv : Invariant asked s) {builder : Builder}
    (absent : s.progress i = .absent builder) : s.count asked (asked i) Event.isNormal = 0 := by
  have here := inv.fits i
  rw [absent] at here
  rw [State.count, List.countP_eq_zero]
  rintro ⟨j, e⟩ mem normal
  obtain ⟨same, normal⟩ : asked j = asked i ∧ e.isNormal = true := by simpa using normal
  match e, normal with
  | .answered (.ok o), _ =>
    rcases Progress.made_or_object? (inv.past j _ mem) with made | object
    · have i_eq_j : i = j := inv.exclusive (by rw [absent]; rfl) (by rw [made]; rfl)
      rw [i_eq_j, made] at absent
      cases absent
    · have stored := (inv.fits j).stored object
      rw [same, here.2.2] at stored
      cases stored

variable [DecidableEq ι]

/-- What is known after access `i` has moved, from what is known of it and of the others. -/
theorem fits_move {cache : FragmentCache} {holder : Option ι} {p : Progress}
    (own : Fits cache (asked i) (holder = some i) p)
    (others : ∀ j, j ≠ i → Fits cache (asked j) (holder = some j) (s.progress j)) (j : ι) :
    Fits cache (asked j) (holder = some j) ((s.move i p).progress j) := by
  by_cases same : j = i
  · subst same
    simpa using own
  · simpa [Function.update_of_ne same] using others j same

theorem past_move (inv : Invariant asked s) {p : Progress}
    (outcome : ∀ answer, (s.progress i).outcome? = some answer → p.outcome? = some answer)
    (object : ∀ o, (s.progress i).object? = some o → p.object? = some o) (j : ι) (e : Event)
    (mem : (j, e) ∈ s.history) : Past ((s.move i p).progress j) e := by
  have before := inv.past j e mem
  by_cases same : j = i
  · subst same
    simpa using before.advance outcome object
  · simpa [Function.update_of_ne same] using before

theorem move (inv : Invariant asked s) {p : Progress} {holder : Option ι}
    (others : ∀ j, j ≠ i → (holder = some j ↔ s.holder = some j))
    (fits : Fits s.cache (asked i) (holder = some i) p)
    (outcome : ∀ answer, (s.progress i).outcome? = some answer → p.outcome? = some answer)
    (object : ∀ o, (s.progress i).object? = some o → p.object? = some o) :
    Invariant asked ((s.move i p).withHolder holder) where
  builders := inv.builders
  nodes := inv.nodes
  fits := fits_move fits fun j other =>
    (inv.fits j).frame (others j other) rfl (fun _ h => h) fun _ => rfl
  past := inv.past_move outcome object
  once := inv.once
  called := inv.called
  stored := inv.stored

theorem answer (inv : Invariant asked s) {builder : Builder} {answer : Except FragmentError Object}
    {p : Progress} (absent : s.progress i = .absent builder)
    (fits : Fits s.cache (asked i) (s.holder = some i) p) (past : Past p (.answered answer)) :
    Invariant asked (((s.move i p).withCache (s.cache.call (asked i) builder).1).record i
      (.answered answer)) where
  builders := inv.builders
  nodes := inv.nodes
  fits := fits_move (fits.frame Iff.rfl rfl (fun _ h => h) fun _ => rfl) fun j _ =>
    (inv.fits j).frame Iff.rfl rfl (fun _ h => h) fun _ => rfl
  past := fun j e mem => by
    rcases List.mem_append.1 mem with before | now
    · exact inv.past_move (by simp [absent]) (by simp [absent]) j e before
    · obtain ⟨rfl, rfl⟩ : j = i ∧ e = .answered answer := by simpa using now
      simpa using past
  once := fun name => by
    have before := inv.once name
    rw [count_record, count_withCache, count_move]
    by_cases same : asked i = name
    · have none := inv.count_eq_zero absent
      rw [same] at none
      rw [none]
      split <;> omega
    · simpa [same] using before
  called := fun name => by
    have before := inv.called name
    rw [count_record, count_withCache, count_move, State.record_cache, State.withCache_cache,
      callsOf_call]
    by_cases same : asked i = name
    · simp [same, before, Event.isAnswer]
    · simp [same, Ne.symm same, before]
  stored := fun name o => by
    have before := inv.stored name o
    simpa [call] using before

theorem store (inv : Invariant asked s) {o : Object} (made : s.progress i = .made o) :
    Invariant asked (((s.move i (.ready o)).withCache (s.cache.store (asked i) o)).record i
      (.stored o)) := by
  have here := inv.fits i
  rw [made] at here
  obtain ⟨holding, node, missing⟩ := here
  refine ⟨inv.builders, ?nodes, fits_move ?own ?others, ?past, ?once, ?called, ?stored⟩
  case nodes =>
    intro name o' stored
    change (s.cache.store (asked i) o).fragments.find? name = some o' at stored
    rw [find?_store] at stored
    split at stored
    next => cases stored; exact node
    next => exact inv.nodes name o' stored
  case own =>
    exact ⟨holding, by simp [find?_store]⟩
  case others =>
    intro j other
    refine (inv.fits j).frame Iff.rfl rfl (fun o' stored => ?_) fun also =>
      absurd (Option.some.inj (also.symm.trans holding)) other
    rwa [State.record_cache, State.withCache_cache, find?_store,
      if_neg (ne_of_stored stored missing)]
  case past =>
    intro j e mem
    rcases List.mem_append.1 mem with before | now
    · exact inv.past_move (by simp [made]) (by simp [made]) j e before
    · obtain ⟨rfl, rfl⟩ : j = i ∧ e = .stored o := by simpa using now
      simp [Past]
  case once =>
    intro name
    have before := inv.once name
    rw [count_record]
    simpa [Event.isNormal] using before
  case called =>
    intro name
    have before := inv.called name
    rw [count_record]
    simpa [Event.isAnswer] using before
  case stored =>
    intro name o'
    have before := inv.stored name o'
    change (s.cache.store (asked i) o).fragments.find? name = some o' ↔ _
    rw [find?_store]
    constructor
    · intro h
      split at h
      next same => cases h; exact ⟨i, same.symm, List.mem_append_right _ List.mem_cons_self⟩
      next =>
        obtain ⟨j, asks, mem⟩ := before.1 h
        exact ⟨j, asks, List.mem_append_left _ mem⟩
    · rintro ⟨j, rfl, mem⟩
      rcases List.mem_append.1 mem with earlier | now
      · have stored := before.2 ⟨j, rfl, earlier⟩
        rw [if_neg (ne_of_stored stored missing), stored]
      · obtain ⟨rfl, rfl⟩ : j = i ∧ o' = o := by simpa using now
        rw [if_pos rfl]

theorem of_step (inv : Invariant asked s) {s' : State ι} (stepped : step asked s i = some s') :
    Invariant asked s' := by
  have here := inv.fits i
  have missing := find?_of_made?_eq_none (inv.nodes (asked i))
  have same : ∀ j, j ≠ i → (s.holder = some j ↔ s.holder = some j) := fun _ _ => Iff.rfl
  have taken : s.holder = none → ∀ j, j ≠ i → (some i = some j ↔ s.holder = some j) := by
    intro free j other
    simp [free, Ne.symm other]
  have freed : s.holder = some i → ∀ j, j ≠ i → (none = some j ↔ s.holder = some j) := by
    intro held j other
    simp [held, Ne.symm other]
  unfold step at stepped
  cases point : s.progress i with
  | entered =>
    simp only [point] at stepped here
    split at stepped
    next o read =>
      cases stepped
      exact inv.move same ⟨here, find?_of_made? read⟩ (by simp [point]) (by simp [point])
    next =>
      cases stepped
      exact inv.move same here (by simp [point]) (by simp [point])
  | missed =>
    simp only [point] at stepped here
    split at stepped
    next builder lookup =>
      cases stepped
      exact inv.move same ⟨here, lookup⟩ (by simp [point]) (by simp [point])
    next =>
      cases stepped
      exact inv.move same here (by simp [point]) (by simp [point])
  | found builder =>
    simp only [point] at stepped here
    split at stepped
    next free =>
      cases stepped
      exact inv.move (taken free) ⟨rfl, here.2⟩ (by simp [point]) (by simp [point])
    next => cases stepped
  | locked builder =>
    simp only [point] at stepped here
    obtain ⟨holding, lookup⟩ := here
    split at stepped
    next o read =>
      cases stepped
      exact inv.move same ⟨holding, find?_of_made? read⟩ (by simp [point]) (by simp [point])
    next read =>
      cases stepped
      exact inv.move same ⟨holding, lookup, missing read⟩ (by simp [point]) (by simp [point])
  | absent builder =>
    simp only [point] at stepped here
    obtain ⟨holding, lookup, missing⟩ := here
    split at stepped
    next called o answered =>
      cases stepped
      have node := inv.builders _ _ lookup _ o (congrArg Prod.snd answered)
      have after := inv.answer (p := .made o) point ⟨holding, node, missing⟩ rfl
      rwa [answered] at after
    next called e answered =>
      cases stepped
      have after := inv.answer (p := .failed e) point holding rfl
      rwa [answered] at after
  | made o =>
    simp only [point] at stepped
    cases stepped
    exact inv.store point
  | ready o =>
    simp only [point] at stepped here
    obtain ⟨holding, stored⟩ := here
    cases stepped
    exact inv.move (freed holding) ⟨by simp, stored⟩ (by simp [point]) (by simp [point])
  | failed e =>
    simp only [point] at stepped here
    cases stepped
    exact inv.move (freed here) (by simp [Fits]) (by simp [point]) (by simp [point])
  | leaving o =>
    simp only [point] at stepped here
    cases stepped
    exact inv.move same here (by simp [point]) (by simp [point])
  | returned o =>
    simp only [point] at stepped
    cases stepped
  | raised e =>
    simp only [point] at stepped
    cases stepped

theorem of_run (inv : Invariant asked s) (schedule : List ι) {s' : State ι}
    (reached : run asked s schedule = some s') : Invariant asked s' := by
  induction schedule generalizing s with
  | nil =>
    cases reached
    exact inv
  | cons i schedule ih =>
    rw [run_cons] at reached
    obtain ⟨next, stepped, reached⟩ := Option.bind_eq_some_iff.1 reached
    exact ih (inv.of_step stepped) reached

theorem kept_step (inv : Invariant asked s) {s' : State ι} {name : String} {o : Object}
    (stored : s.cache.fragments.find? name = some o) (stepped : step asked s i = some s') :
    s'.cache.fragments.find? name = some o ∧ s'.cache.callsOf name = s.cache.callsOf name := by
  have here := inv.fits i
  rcases cache_step stepped with quiet | ⟨builder, absent, called⟩ | ⟨o', made, store⟩
  · rw [quiet]
    exact ⟨stored, rfl⟩
  · rw [absent] at here
    rw [called, callsOf_call, if_neg (ne_of_stored stored here.2.2)]
    exact ⟨stored, rfl⟩
  · rw [made] at here
    rw [store, find?_store, if_neg (ne_of_stored stored here.2.2), callsOf_store]
    exact ⟨stored, rfl⟩

theorem kept_run (inv : Invariant asked s) {name : String} {o : Object}
    (stored : s.cache.fragments.find? name = some o) (schedule : List ι) {s' : State ι}
    (reached : run asked s schedule = some s') :
    s'.cache.fragments.find? name = some o ∧ s'.cache.callsOf name = s.cache.callsOf name := by
  induction schedule generalizing s with
  | nil =>
    cases reached
    exact ⟨stored, rfl⟩
  | cons i schedule ih =>
    rw [run_cons] at reached
    obtain ⟨next, stepped, reached⟩ := Option.bind_eq_some_iff.1 reached
    obtain ⟨storedNext, calls⟩ := inv.kept_step stored stepped
    obtain ⟨storedLast, later⟩ := ih (inv.of_step stepped) storedNext reached
    exact ⟨storedLast, later.trans calls⟩

end Invariant

variable [DecidableEq ι]

structure Safe (asked : ι → String) (s : State ι) : Prop where
  /-- At most one access has taken the lock and not given it back. -/
  exclusive : ∀ i j, (s.progress i).isInside = true → (s.progress j).isInside = true → i = j
  /-- No builder has returned twice. -/
  once : ∀ name, s.count asked name Event.isNormal ≤ 1
  called : ∀ name, s.cache.callsOf name = s.count asked name Event.isAnswer
  stored : ∀ name o, s.cache.fragments.find? name = some o ↔
    ∃ i, asked i = name ∧ (i, .stored o) ∈ s.history
  /-- From the store on the fragment stays and its builder is not called any more. -/
  kept : ∀ name o, s.cache.fragments.find? name = some o →
    ∀ schedule s', run asked s schedule = some s' →
      s'.cache.fragments.find? name = some o ∧ s'.cache.callsOf name = s.cache.callsOf name
  shared : ∀ i o, s.progress i = .returned o → s.cache.fragments.find? (asked i) = some o
  /-- An access whose builder raised has stored nothing, and either it has given the lock back or its
  next step does so. -/
  failing : ∀ i e, (i, .answered (.error e)) ∈ s.history →
    (∀ o, (i, .stored o) ∉ s.history) ∧
    (s.progress i = .raised e ∧ s.holder ≠ some i ∨
      s.progress i = .failed e ∧ s.holder = some i ∧
        step asked s i = some ((s.move i (.raised e)).withHolder none))

theorem Invariant.safe {s : State ι} (inv : Invariant asked s) : Safe asked s where
  exclusive := fun _ _ => inv.exclusive
  once := inv.once
  called := inv.called
  stored := inv.stored
  kept := fun _ _ stored schedule _ => inv.kept_run stored schedule
  shared := fun i o returned => (inv.fits i).stored (by rw [returned]; rfl)
  failing := fun i e mem => by
    have here := inv.fits i
    have outcome := Progress.failed_or_raised (inv.past i _ mem)
    constructor
    · intro o also
      have object : (s.progress i).object? = some o := inv.past i _ also
      rcases outcome with point | point <;> simp [point] at object
    · rcases outcome with point | point
      · rw [point] at here
        exact Or.inr ⟨point, here, by simp only [step, point]⟩
      · rw [point] at here
        exact Or.inl ⟨point, here⟩

/-- Whatever the builders return and raise and however the accesses interleave, the cache is safe. -/
theorem safe_of_run (builders : Table String Builder) (firstIdentity : Identity) (asked : ι → String)
    (nodes : ∀ name builder, builders.find? name = some builder → ReturnsNodes builder)
    (schedule : List ι) (s : State ι)
    (reached : run asked (start builders firstIdentity) schedule = some s) : Safe asked s :=
  ((invariant_start firstIdentity nodes).of_run schedule reached).safe

end Runs

/-- Three accesses that miss the fragment at their first read: the builder of one raises, the next
builds the fragment, and the third finds it at its second read. -/
theorem safe_of_run_race :
    let builder : Builder := fun call =>
      if call.earlier = 0 then .error (.failed "once") else .ok ⟨call.fresh, .text "x"⟩
    let builders : Table String Builder := ⟨[("a", builder)], by simp⟩
    let asked : Nat → String := fun _ => "a"
    let schedule := [0, 1, 2, 0, 1, 2, 0, 0, 0, 0, 1, 1, 1, 1, 1, 2, 2, 2, 2, 1]
    (∀ name b, builders.find? name = some b → ReturnsNodes b) ∧
    ∃ s, run asked (start builders 7) schedule = some s ∧
      s.progress 0 = .raised (.failed "once") ∧ s.progress 1 = .returned ⟨8, .text "x"⟩ ∧
      s.progress 2 = .returned ⟨8, .text "x"⟩ ∧ Safe asked s := by
  intro builder builders asked schedule
  have nodes : ∀ name b, builders.find? name = some b → ReturnsNodes b := by
    intro name b found call o answered
    simp only [builders, Table.find?, List.lookup_cons, List.lookup_nil] at found
    split at found
    · cases found
      simp only [builder] at answered
      split at answered <;> cases answered
      rfl
    · cases found
  have ends : ∃ s, run asked (start builders 7) schedule = some s ∧
      s.progress 0 = .raised (.failed "once") ∧ s.progress 1 = .returned ⟨8, .text "x"⟩ ∧
      s.progress 2 = .returned ⟨8, .text "x"⟩ :=
    ⟨_, rfl, rfl, rfl, rfl⟩
  obtain ⟨s, reached, first, second, third⟩ := ends
  exact ⟨nodes, s, reached, first, second, third,
    safe_of_run builders 7 asked nodes schedule s reached⟩

end DocPages.FragmentCache
