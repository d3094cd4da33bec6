import Mathlib.Data.List.Nodup
import DocPages.Proofs.Frontend.Run
/-! # Shared and own objects of the frontend page

Over a whole run the static parts are at each place of all trees one and the same object, while the
objects around the marker belong to one tree each.  Both are read off from the layout of the trees: the
parts are what the last cache stores, and the identities of all own objects together occur only once
(`Explains.grows`). -/
set_option autoImplicit false
namespace DocPages.Frontend

/-- A place in a page: a top-level node, or a child of one. -/
inductive Place
  | top (i : Nat)
  | child (i j : Nat)

def objectAt (nodes : List Tracked) : Place → Option Object
  | .top i => nodes[i]?.map fun n => ⟨n.identity, n.node⟩
  | .child i j => nodes[i]?.bind fun n => n.children[j]?

def sharedPlaces : List (Place × String) :=
  [(.top 0, "heading"), (.top 1, "intro"), (.child 2 0, "warning-title"),
    (.child 2 1, "license-notice"), (.child 2 3, "commercial-uses"), (.top 3, "installation"),
    (.child 4 1, "unpack-step"), (.child 4 2, "open-step"), (.top 5, "closing")]

/-- The warning and the download list, and those of their children that hold the marker. -/
def ownPlaces : List Place :=
  [.top 2, .child 2 2, .child 2 4, .top 4, .child 4 0, .child 4 3]

def identities (nodes : List Tracked) : List Identity :=
  nodes.flatMap fun n => n.identity :: n.children.map Object.identity

section Layout
variable (marker : Component) (part : String → Object) (made : Made)

theorem objectAt_shared :
    ∀ e ∈ sharedPlaces, objectAt (layout marker part made) e.1 = some (part e.2) := by
  simp only [sharedPlaces, List.forall_mem_cons]
  exact ⟨rfl, rfl, rfl, rfl, rfl, rfl, rfl, rfl, rfl, fun e mem => by cases mem⟩

theorem objectAt_own :
    ∀ place ∈ ownPlaces, ∃ o, objectAt (layout marker part made) place = some o ∧
      o.identity ∈ made.all := by
  simp only [ownPlaces, List.forall_mem_cons]
  refine ⟨⟨_, rfl, ?_⟩, ⟨_, rfl, ?_⟩, ⟨_, rfl, ?_⟩, ⟨_, rfl, ?_⟩, ⟨_, rfl, ?_⟩, ⟨_, rfl, ?_⟩,
    fun place mem => by cases mem⟩
  all_goals simp [Made.all, Tracked.identity]

theorem mem_identities_layout {i : Identity} (mem : i ∈ identities (layout marker part made)) :
    i ∈ made.all ∨ ∃ name ∈ names, i = (part name).identity := by
  simp only [identities, layout, Tracked.identity, Tracked.children, List.flatMap_cons,
    List.flatMap_nil, List.map_cons, List.map_nil, List.cons_append, List.nil_append,
    List.mem_cons, List.not_mem_nil, or_false] at mem
  simp only [Made.all, names, parts, List.map_cons, List.map_nil, List.mem_cons, List.not_mem_nil,
    or_false, exists_eq_or_imp, exists_eq_left]
  tauto

end Layout

/-- What holds of the objects of a run from the new cache. -/
structure Sharing (operations : List Operation) : Prop where
  /-- For each fragment name there is one object, which stands at the place of this name in every tree
  and which every access to the name returned. -/
  shared : ∃ object : String → Object,
    (∀ nodes ∈ trees (performAll newCache operations).2, ∀ e ∈ sharedPlaces,
      objectAt nodes e.1 = some (object e.2)) ∧
    ∀ name result, .got name result ∈ (performAll newCache operations).2 →
      name ∈ builders.keys → result = .ok (object name)
  /-- The other objects of a tree occur in no other tree. -/
  own : ∀ (i j : Nat) nodes nodes', (trees (performAll newCache operations).2)[i]? = some nodes →
    (trees (performAll newCache operations).2)[j]? = some nodes' → i ≠ j →
    ∀ place ∈ ownPlaces, ∃ o, objectAt nodes place = some o ∧ o.identity ∉ identities nodes'
  /-- A rendering without the marker fails and changes nothing. -/
  refused : ∀ context : Context, context.contains OutboundLink.name = false →
    renderTracked context (performAll newCache operations).1 =
      (.error (.component ⟨OutboundLink.name, context.names⟩), (performAll newCache operations).1)
  /-- After a rendering every fragment is built and no builder is called any more. -/
  built : ∀ context nodes after,
    renderTracked context (performAll newCache operations).1 = (.ok nodes, after) →
    (∀ name ∈ builders.keys, after.isBuilt name = true) ∧
    ∀ later name, (performAll after later).1.callsOf name = after.callsOf name

section Runs
variable {pages : List (Component × Made)} {cache : FragmentCache} {outcomes : List Outcome}

theorem Explains.disjoint (explains : Explains pages newCache cache outcomes) {i j : Nat}
    {page page' : Component × Made} (at_i : pages[i]? = some page) (at_j : pages[j]? = some page')
    (other : i ≠ j) : List.Disjoint page.2.all page'.2.all := by
  have apart := (List.nodup_flatMap.1 explains.grows.distinct).2
  rw [List.pairwise_iff_getElem] at apart
  obtain ⟨hi, rfl⟩ := List.getElem?_eq_some_iff.1 at_i
  obtain ⟨hj, rfl⟩ := List.getElem?_eq_some_iff.1 at_j
  rcases Nat.lt_or_gt_of_ne other with before | after
  · exact apart i j hi hj before
  · exact fun _ mem mem' => apart j i hj hi after mem' mem

theorem Explains.own (explains : Explains pages newCache cache outcomes) {i j : Nat}
    {nodes nodes' : List Tracked} (at_i : (trees outcomes)[i]? = some nodes)
    (at_j : (trees outcomes)[j]? = some nodes') (other : i ≠ j) (place : Place)
    (mem : place ∈ ownPlaces) :
    ∃ o, objectAt nodes place = some o ∧ o.identity ∉ identities nodes' := by
  rw [explains.layouts, List.getElem?_map, Option.map_eq_some_iff] at at_i at_j
  obtain ⟨page, at_i, rfl⟩ := at_i
  obtain ⟨page', at_j, rfl⟩ := at_j
  obtain ⟨o, found, own⟩ := objectAt_own page.1 (stored cache) page.2 place mem
  refine ⟨o, found, fun also => ?_⟩
  rcases mem_identities_layout page'.1 (stored cache) page'.2 also with also | ⟨name, known, same⟩
  · exact explains.disjoint at_i at_j other own also
  · have page_mem := List.mem_of_getElem? at_i
    have complete := explains.complete (List.ne_nil_of_mem page_mem)
    have unlike := explains.grows.notMem sound_newCache (complete name known)
    rw [← same] at unlike
    exact unlike (List.mem_flatMap_of_mem page_mem own)

theorem resolve_of_contains_eq_false {context : Context} {name : String}
    (lacks : context.contains name = false) :
    context.resolve name = .error ⟨name, context.names⟩ := by
  have absent : context.components.find? name = none := by
    rw [Table.find?_eq_none_iff, ← Table.contains_iff]
    exact ne_true_of_eq_false lacks
  rw [Context.resolve, absent]

theorem callsOf_performAll (sound : Sound cache) (complete : Complete cache)
    (operations : List Operation) (name : String) :
    (performAll cache operations).1.callsOf name = cache.callsOf name := by
  obtain ⟨_, explains⟩ := explains_performAll sound operations
  exact explains.grows.quiet name fun known => ⟨_, complete name known⟩

theorem built_of_render (sound : Sound cache) {context : Context} {nodes : List Tracked}
    {after : FragmentCache} (rendered : renderTracked context cache = (.ok nodes, after)) :
    Sound after ∧ Complete after := by
  cases resolved : context.resolve OutboundLink.name with
  | ok marker =>
    obtain ⟨made, _, ran, grows, complete⟩ := render_eq_layout sound resolved
    rw [ran] at rendered
    cases rendered
    exact ⟨grows.sound, complete⟩
  | error e =>
    rw [render_eq_error resolved] at rendered
    cases rendered

/-- Over any run the static parts are shared by all trees and everything else is new in each tree. -/
theorem sharing_of_run (operations : List Operation) : Sharing operations := by
  obtain ⟨pages, explains⟩ := explains_performAll sound_newCache operations
  have sound := explains.grows.sound
  constructor
  case shared =>
    refine ⟨stored (performAll newCache operations).1, ?_, ?_⟩
    · intro nodes mem
      rw [explains.layouts, List.mem_map] at mem
      obtain ⟨page, _, rfl⟩ := mem
      exact objectAt_shared page.1 _ page.2
    · intro name result mem known
      rw [keys_builders] at known
      obtain ⟨o, found, rfl⟩ := explains.got name result mem known
      rw [stored_eq found]
  case own =>
    intro i j nodes nodes' at_i at_j other place mem
    exact explains.own at_i at_j other place mem
  case refused =>
    intro context lacks
    exact render_eq_error (resolve_of_contains_eq_false lacks) _
  case built =>
    intro context nodes after rendered
    obtain ⟨sound, complete⟩ := built_of_render sound rendered
    refine ⟨fun name known => ?_, callsOf_performAll sound complete⟩
    rw [keys_builders] at known
    rw [FragmentCache.isBuilt, Table.contains_iff]
    by_contra absent
    rw [← Table.find?_eq_none_iff, complete name known] at absent
    cases absent

end Runs

/-- A rendering that fails and two that succeed, with an access and a warm-up among them: six of the
fifteen objects are new in the second tree. -/
theorem sharing_of_run_mixed :
    let context := Context.standard 1 OutboundLink.defaultLabel
    let operations : List Operation :=
      [.get "closing", .render .empty, .render context, .warm, .render context]
    (trees (performAll newCache operations).2).map identities =
      [[1, 2, 8, 3, 4, 5, 6, 7, 9, 14, 10, 11, 12, 13, 0],
        [1, 2, 17, 3, 4, 15, 6, 16, 9, 20, 18, 11, 12, 19, 0]] ∧
    Sharing operations := by
  intro context operations
  exact ⟨rfl, sharing_of_run operations⟩

end DocPages.Frontend
