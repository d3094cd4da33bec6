import DocPages.Page.Frontend
import DocPages.Proofs.FragmentCache.Interleaved
/-! # The cache of the frontend page

Every fragment of the page has a builder that makes a new object of one fixed node, so a stored object
is known up to its identity (`Sound`).  Fragments are never replaced, and whatever is made later gets
an identity above all earlier ones; `Grows` says this of two caches and lists the identities that were
given to objects outside the cache. -/
set_option autoImplicit false
namespace DocPages.Frontend

def parts : List (String × Node) :=
  [("heading", heading), ("intro", intro), ("warning-title", warningTitle),
    ("license-notice", licenseNotice), ("commercial-uses", commercialUses),
    ("installation", installation), ("unpack-step", unpackStep), ("open-step", openStep),
    ("closing", closing)]

def names : List String := parts.map Prod.fst

theorem entries_builders : builders.entries = parts.map fun e => (e.1, making e.2) :=
  Table.entries_ofList (by decide +kernel)

theorem keys_builders : builders.keys = names := by
  rw [Table.keys, entries_builders, List.map_map]
  rfl

theorem find?_builders (name : String) :
    builders.find? name = (parts.lookup name).map making := by
  rw [Table.find?, entries_builders]
  induction parts with
  | nil => rfl
  | cons e rest ih =>
    rw [List.map_cons, List.lookup_cons, List.lookup_cons, ih]
    cases name == e.1 <;> rfl

theorem lookup_eq_none_iff (name : String) : parts.lookup name = none ↔ name ∉ names := by
  rw [← keys_builders, ← Table.find?_eq_none_iff, find?_builders, Option.map_eq_none_iff]

theorem exists_part {name : String} (known : name ∈ names) :
    ∃ node, parts.lookup name = some node := by
  cases found : parts.lookup name with
  | none => exact absurd known ((lookup_eq_none_iff name).1 found)
  | some node => exact ⟨node, rfl⟩

theorem known_of_part {name : String} {node : Node} (part : parts.lookup name = some node) :
    name ∈ names := by
  by_contra unknown
  rw [(lookup_eq_none_iff name).2 unknown] at part
  cases part

/-! ## Sound caches and their growth -/

structure Sound (cache : FragmentCache) : Prop where
  builders : cache.builders = builders
  parts : ∀ name o, cache.fragments.find? name = some o → parts.lookup name = some o.node
  old : ∀ name o, cache.fragments.find? name = some o → o.identity < cache.nextIdentity

theorem sound_newCache : Sound newCache where
  builders := rfl
  parts := fun name o stored => by cases stored
  old := fun name o stored => by cases stored

/-- From `before` to `after` no fragment is lost or replaced, and besides fragments objects with the
identities `own` are made. -/
structure Grows (own : List Identity) (before after : FragmentCache) : Prop where
  sound : Sound after
  next : before.nextIdentity ≤ after.nextIdentity
  kept : ∀ name o, before.fragments.find? name = some o → after.fragments.find? name = some o
  added : ∀ name o, after.fragments.find? name = some o →
    before.fragments.find? name = some o ∨ before.nextIdentity ≤ o.identity ∧ o.identity ∉ own
  /-- Only the builder of a fragment that is not stored yet may be called. -/
  quiet : ∀ name, (name ∈ names → ∃ o, before.fragments.find? name = some o) →
    after.callsOf name = before.callsOf name
  new : ∀ i ∈ own, before.nextIdentity ≤ i ∧ i < after.nextIdentity
  distinct : own.Nodup

namespace Grows
variable {own own' : List Identity} {before middle after : FragmentCache}

theorem refl {cache : FragmentCache} (sound : Sound cache) : Grows [] cache cache where
  sound := sound
  next := Nat.le_refl _
  kept := fun _ _ stored => stored
  added := fun _ _ stored => Or.inl stored
  quiet := fun _ _ => rfl
  new := fun i mem => by cases mem
  distinct := List.nodup_nil

theorem trans (first : Grows own before middle) (second : Grows own' middle after) :
    Grows (own ++ own') before after := by
  constructor
  case sound => exact second.sound
  case next => exact Nat.le_trans first.next second.next
  case kept =>
    intro name o stored
    exact second.kept name o (first.kept name o stored)
  case added =>
    intro name o stored
    rcases second.added name o stored with earlier | ⟨late, unlike'⟩
    · rcases first.added name o earlier with earliest | ⟨late, unlike⟩
      · exact Or.inl earliest
      · have bound := first.sound.old name o earlier
        refine Or.inr ⟨late, ?_⟩
        intro mem
        rcases List.mem_append.1 mem with mem | mem
        · exact unlike mem
        · exact Nat.not_le_of_lt bound (second.new _ mem).1
    · refine Or.inr ⟨Nat.le_trans first.next late, ?_⟩
      intro mem
      rcases List.mem_append.1 mem with mem | mem
      · exact Nat.not_le_of_lt (first.new _ mem).2 late
      · exact unlike' mem
  case quiet =>
    intro name stored
    have calls := first.quiet name stored
    have calls' : after.callsOf name = middle.callsOf name := by
      apply second.quiet
      intro known
      obtain ⟨o, stored⟩ := stored known
      exact ⟨o, first.kept name o stored⟩
    exact calls'.trans calls
  case new =>
    intro i mem
    rcases List.mem_append.1 mem with mem | mem
    · obtain ⟨above, below⟩ := first.new i mem
      exact ⟨above, Nat.lt_of_lt_of_le below second.next⟩
    · obtain ⟨above, below⟩ := second.new i mem
      exact ⟨Nat.le_trans first.next above, below⟩
  case distinct =>
    refine List.nodup_append.2 ⟨first.distinct, second.distinct, ?_⟩
    rintro i mem _ mem' rfl
    exact Nat.not_le_of_lt (first.new i mem).2 (second.new i mem').1

theorem notMem (grows : Grows own before after) (sound : Sound before) {name : String} {o : Object}
    (stored : after.fragments.find? name = some o) : o.identity ∉ own := by
  rcases grows.added name o stored with earlier | ⟨_, unlike⟩
  · intro mem
    exact Nat.not_le_of_lt (sound.old name o earlier) (grows.new _ mem).1
  · exact unlike

end Grows

/-! ## What one access does -/

section Access
variable {cache : FragmentCache}

theorem isNull_of_part {name : String} {node : Node} (part : parts.lookup name = some node)
    (identity : Identity) : Object.isNull ⟨identity, node⟩ = false := by
  have all : ∀ e ∈ parts, Object.isNull ⟨identity, e.2⟩ = false := by
    simp only [parts, List.forall_mem_cons]
    exact ⟨rfl, rfl, rfl, rfl, rfl, rfl, rfl, rfl, rfl, fun e mem => by cases mem⟩
  obtain ⟨before, after, split, _⟩ := List.lookup_eq_some_iff.1 part
  refine all (name, node) ?_
  rw [split]
  exact List.mem_append_right _ List.mem_cons_self

theorem made?_of_stored (sound : Sound cache) {name : String} {o : Object}
    (stored : cache.fragments.find? name = some o) : cache.made? name = some o := by
  have node := isNull_of_part (sound.parts name o stored) o.identity
  simp only [FragmentCache.made?, stored]
  exact if_neg (ne_true_of_eq_false node)

theorem get_of_stored (sound : Sound cache) {name : String} {o : Object}
    (stored : cache.fragments.find? name = some o) : cache.get name = (cache, .ok o) := by
  rw [FragmentCache.get, made?_of_stored sound stored]

theorem get_of_unknown (sound : Sound cache) {name : String} (unknown : name ∉ names) :
    cache.get name = (cache, .error (.unknown name names)) := by
  have absent := (lookup_eq_none_iff name).2 unknown
  have missing : cache.made? name = none := by
    cases read : cache.made? name with
    | none => rfl
    | some o =>
      have stored := sound.parts name o (FragmentCache.find?_of_made? read)
      rw [absent] at stored
      cases stored
  have lookup : cache.builders.find? name = none := by
    rw [sound.builders, find?_builders, absent]
    rfl
  rw [FragmentCache.get, missing, lookup, FragmentCache.names, sound.builders, keys_builders]

theorem grows_store (sound : Sound cache) {name : String} {node : Node}
    (part : parts.lookup name = some node) (missing : cache.fragments.find? name = none) :
    Grows [] cache ((cache.call name (making node)).1.store name ⟨cache.nextIdentity, node⟩) := by
  have reads : ∀ k, ((cache.call name (making node)).1.store name
      ⟨cache.nextIdentity, node⟩).fragments.find? k =
        if k = name then some ⟨cache.nextIdentity, node⟩ else cache.fragments.find? k := by
    intro k
    rw [FragmentCache.find?_store, FragmentCache.call]
  constructor
  case sound =>
    refine ⟨sound.builders, ?_, ?_⟩
    · intro k o stored
      rw [reads] at stored
      split at stored
      next same => cases stored; rw [same]; exact part
      next => exact sound.parts k o stored
    · intro k o stored
      rw [reads] at stored
      split at stored
      next => cases stored; exact Nat.lt_succ_self _
      next => exact Nat.lt_succ_of_lt (sound.old k o stored)
  case next => exact Nat.le_succ _
  case kept =>
    intro k o stored
    rw [reads, if_neg (FragmentCache.ne_of_stored stored missing)]
    exact stored
  case added =>
    intro k o stored
    rw [reads] at stored
    split at stored
    next => cases stored; exact Or.inr ⟨Nat.le_refl _, List.not_mem_nil⟩
    next => exact Or.inl stored
  case quiet =>
    intro k stored
    have other : k ≠ name := by
      rintro rfl
      obtain ⟨o, stored⟩ := stored (known_of_part part)
      rw [missing] at stored
      cases stored
    rw [FragmentCache.callsOf_store, FragmentCache.callsOf_call, if_neg other]
  case new =>
    intro i mem
    cases mem
  case distinct => exact List.nodup_nil

theorem get_of_missing (sound : Sound cache) {name : String} {node : Node}
    (part : parts.lookup name = some node) (missing : cache.fragments.find? name = none) :
    cache.get name = ((cache.call name (making node)).1.store name ⟨cache.nextIdentity, node⟩,
      .ok ⟨cache.nextIdentity, node⟩) := by
  have nothing : cache.made? name = none := by
    rw [FragmentCache.made?, missing]
  have lookup : cache.builders.find? name = some (making node) := by
    rw [sound.builders, find?_builders, part]
    rfl
  rw [FragmentCache.get, nothing, lookup]
  rfl

theorem get_eq_ok (sound : Sound cache) {name : String} (known : name ∈ names) :
    ∃ o after, cache.get name = (after, .ok o) ∧ Grows [] cache after ∧
      after.fragments.find? name = some o := by
  cases read : cache.fragments.find? name with
  | none =>
    obtain ⟨node, part⟩ := exists_part known
    refine ⟨_, _, get_of_missing sound part read, grows_store sound part read, ?_⟩
    rw [FragmentCache.find?_store, if_pos rfl]
  | some o => exact ⟨o, cache, get_of_stored sound read, .refl sound, read⟩

theorem getAll_eq_ok (sound : Sound cache) {wanted : List String}
    (known : ∀ name ∈ wanted, name ∈ names) :
    ∃ after, cache.getAll wanted = (after, .ok ()) ∧ Grows [] cache after ∧
      ∀ name ∈ wanted, ∃ o, after.fragments.find? name = some o := by
  induction wanted generalizing cache with
  | nil => exact ⟨cache, rfl, .refl sound, fun name mem => by cases mem⟩
  | cons name rest ih =>
    rw [List.forall_mem_cons] at known
    obtain ⟨o, middle, got, grows, stored⟩ := get_eq_ok sound known.1
    obtain ⟨after, ran, grows', storedRest⟩ := ih grows.sound known.2
    refine ⟨after, ?_, grows.trans grows', ?_⟩
    · rw [FragmentCache.getAll, got]
      exact ran
    · rw [List.forall_mem_cons]
      exact ⟨⟨o, grows'.kept name o stored⟩, storedRest⟩

theorem warm_eq_ok (sound : Sound cache) :
    ∃ after, cache.warm = (after, .ok ()) ∧ Grows [] cache after ∧
      ∀ name ∈ names, ∃ o, after.fragments.find? name = some o := by
  have all : cache.names = names := by
    rw [FragmentCache.names, sound.builders, keys_builders]
  rw [FragmentCache.warm, all]
  exact getAll_eq_ok sound fun _ mem => mem

theorem grows_fresh (sound : Sound cache) :
    Grows [cache.nextIdentity] cache { cache with nextIdentity := cache.nextIdentity + 1 } where
  sound := ⟨sound.builders, sound.parts, fun name o stored =>
    Nat.lt_succ_of_lt (sound.old name o stored)⟩
  next := Nat.le_succ _
  kept := fun _ _ stored => stored
  added := fun _ _ stored => Or.inl stored
  quiet := fun _ _ => rfl
  new := fun i mem => by
    rw [List.mem_singleton.1 mem]
    exact ⟨Nat.le_refl _, Nat.lt_succ_self _⟩
  distinct := List.nodup_cons.2 ⟨List.not_mem_nil, List.nodup_nil⟩

end Access
end DocPages.Frontend
