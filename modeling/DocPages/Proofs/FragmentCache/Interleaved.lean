import Mathlib.Logic.Function.Basic
import Mathlib.Tactic.Simps.Basic
import DocPages.FragmentCache
/-! # Accesses to a cache that interleave

Many accesses may be under way at one cache, each for a name of its own choice.  An access first reads
the stored fragments without the lock and looks up the builder.  Only then it takes the lock, reads a
second time, and calls the builder if there is still nothing.  A schedule says which access moves
next; an access that waits for the lock cannot move.  An access that is not interrupted does what
`get` does (`run_alone`). -/
set_option autoImplicit false
namespace DocPages.FragmentCache

/-! ## Calls and stores -/

theorem callsOf_call (cache : FragmentCache) (name k : String) (builder : Builder) :
    (cache.call name builder).1.callsOf k =
      if k = name then cache.callsOf name + 1 else cache.callsOf k := by
  rw [callsOf, call, Table.find?_insert]
  split <;> rfl

@[simp] theorem callsOf_store (cache : FragmentCache) (name k : String) (o : Object) :
    (cache.store name o).callsOf k = cache.callsOf k := rfl

theorem find?_store (cache : FragmentCache) (name k : String) (o : Object) :
    (cache.store name o).fragments.find? k =
      if k = name then some o else cache.fragments.find? k :=
  Table.find?_insert ..

theorem find?_of_made? {cache : FragmentCache} {name : String} {o : Object}
    (h : cache.made? name = some o) : cache.fragments.find? name = some o := by
  unfold made? at h
  split at h
  next stored =>
    split at h
    next => cases h
    next => cases h; exact stored
  next => cases h

theorem find?_of_made?_eq_none {cache : FragmentCache} {name : String}
    (nodes : ∀ o, cache.fragments.find? name = some o → o.isNull = false)
    (h : cache.made? name = none) : cache.fragments.find? name = none := by
  unfold made? at h
  split at h
  next o stored => simp [nodes o stored] at h
  next missing => exact missing

theorem ne_of_stored {cache : FragmentCache} {name k : String} {o : Object}
    (stored : cache.fragments.find? name = some o) (missing : cache.fragments.find? k = none) :
    name ≠ k := by
  rintro rfl
  rw [missing] at stored
  cases stored

/-! ## Accesses -/

inductive Progress
  | entered
  /-- the first read found nothing -/
  | missed
  | found (builder : Builder)
  | locked (builder : Builder)
  /-- the second read found nothing -/
  | absent (builder : Builder)
  /-- the builder returned an object -/
  | made (o : Object)
  /-- the object is stored, by this access or by another -/
  | ready (o : Object)
  /-- the builder raised an error -/
  | failed (e : FragmentError)
  /-- the access does not hold the lock any more, or never took it -/
  | leaving (o : Object)
  | returned (o : Object)
  | raised (e : FragmentError)

def Progress.isInside : Progress → Bool
  | .locked _ => true
  | .absent _ => true
  | .made _ => true
  | .ready _ => true
  | .failed _ => true
  | _ => false

inductive Event
  /-- its builder returned or raised -/
  | answered (answer : Except FragmentError Object)
  | stored (o : Object)

structure State (ι : Type) where
  cache : FragmentCache
  holder : Option ι
  progress : ι → Progress
  history : List (ι × Event)

section Steps
variable {ι : Type}

def start (builders : Table String Builder) (firstIdentity : Identity) : State ι :=
  ⟨.new builders firstIdentity, none, fun _ => .entered, []⟩

@[simps]
def State.withCache (s : State ι) (cache : FragmentCache) : State ι := { s with cache := cache }

@[simps]
def State.withHolder (s : State ι) (holder : Option ι) : State ι := { s with holder := holder }

@[simps]
def State.record (s : State ι) (i : ι) (e : Event) : State ι :=
  { s with history := s.history ++ [(i, e)] }

variable [DecidableEq ι]

@[simps]
def State.move (s : State ι) (i : ι) (p : Progress) : State ι :=
  { s with progress := Function.update s.progress i p }

/-- The next step of access `i`, which asks for `asked i`. -/
def step (asked : ι → String) (s : State ι) (i : ι) : Option (State ι) :=
  match s.progress i with
  | .entered =>
    match s.cache.made? (asked i) with
    | some o => some (s.move i (.leaving o))
    | none => some (s.move i .missed)
  | .missed =>
    match s.cache.builders.find? (asked i) with
    | some builder => some (s.move i (.found builder))
    | none => some (s.move i (.raised (.unknown (asked i) s.cache.names)))
  | .found builder =>
    match s.holder with
    | none => some ((s.move i (.locked builder)).withHolder (some i))
    | some _ => none
  | .locked builder =>
    match s.cache.made? (asked i) with
    | some o => some (s.move i (.ready o))
    | none => some (s.move i (.absent builder))
  | .absent builder =>
    match s.cache.call (asked i) builder with
    | (called, .ok o) =>
      some (((s.move i (.made o)).withCache called).record i (.answered (.ok o)))
    | (called, .error e) =>
      some (((s.move i (.failed e)).withCache called).record i (.answered (.error e)))
  | .made o =>
    some (((s.move i (.ready o)).withCache (s.cache.store (asked i) o)).record i (.stored o))
  | .ready o => some ((s.move i (.leaving o)).withHolder none)
  | .failed e => some ((s.move i (.raised e)).withHolder none)
  | .leaving o => some (s.move i (.returned o))
  | .returned _ => none
  | .raised _ => none

/-- Moves the accesses of a schedule in turn, if none of them has to wait. -/
def run (asked : ι → String) (s : State ι) (schedule : List ι) : Option (State ι) :=
  schedule.foldlM (step asked) s

theorem cache_step {asked : ι → String} {s s' : State ι} {i : ι}
    (stepped : step asked s i = some s') :
    s'.cache = s.cache ∨
    (∃ builder, s.progress i = .absent builder ∧
      s'.cache = (s.cache.call (asked i) builder).1) ∨
    ∃ o, s.progress i = .made o ∧ s'.cache = s.cache.store (asked i) o := by
  unfold step at stepped
  cases point : s.progress i with
  | absent builder =>
    rw [point] at stepped
    rcases called : s.cache.call (asked i) builder with ⟨cache, e | o⟩
    · simp only [called] at stepped
      cases stepped
      exact Or.inr (Or.inl ⟨builder, rfl, by rw [called]; rfl⟩)
    · simp only [called] at stepped
      cases stepped
      exact Or.inr (Or.inl ⟨builder, rfl, by rw [called]; rfl⟩)
  | made o =>
    rw [point] at stepped
    cases stepped
    exact Or.inr (Or.inr ⟨o, rfl, rfl⟩)
  | _ =>
    rw [point] at stepped
    left
    simp only at stepped
    repeat' split at stepped
    all_goals cases stepped <;> rfl

def Progress.ofAnswer : Except FragmentError Object → Progress
  | .ok o => .returned o
  | .error e => .raised e

theorem run_nil (asked : ι → String) (s : State ι) : run asked s [] = some s :=
  rfl

theorem run_cons (asked : ι → String) (s : State ι) (i : ι) (schedule : List ι) :
    run asked s (i :: schedule) = (step asked s i).bind fun s' => run asked s' schedule :=
  rfl

/-- An access that is not interrupted leaves the cache that `get` leaves, and ends with its answer. -/
theorem run_alone (asked : ι → String) {s : State ι} {i : ι} (entered : s.progress i = .entered)
    (free : s.holder = none) :
    ∃ n, (run asked s (List.replicate n i)).map (fun s' => (s'.cache, s'.progress i, s'.holder)) =
      some ((s.cache.get (asked i)).1, .ofAnswer (s.cache.get (asked i)).2, none) := by
  rw [get]
  cases first : s.cache.made? (asked i) with
  | some o =>
    refine ⟨2, ?_⟩
    simp [List.replicate, run_cons, run_nil, step, Progress.ofAnswer, entered, first, free]
  | none =>
    cases lookup : s.cache.builders.find? (asked i) with
    | none =>
      refine ⟨2, ?_⟩
      simp [List.replicate, run_cons, run_nil, step, Progress.ofAnswer, entered, first,
        lookup, free]
    | some builder =>
      simp only [build]
      rcases called : s.cache.call (asked i) builder with ⟨cache, e | o⟩
      · refine ⟨6, ?_⟩
        simp [List.replicate, run_cons, run_nil, step, Progress.ofAnswer,
          entered, first, lookup, free, called]
      · refine ⟨8, ?_⟩
        simp [List.replicate, run_cons, run_nil, step, Progress.ofAnswer,
          entered, first, lookup, free, called]

end Steps
end DocPages.FragmentCache
