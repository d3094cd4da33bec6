import Mathlib.Data.List.Lex
import Mathlib.Data.List.Nodup
import DocPages.Proofs.Page.Recovery
/-! # Places in an outline

The place of an entry is the way down to it: the position of an entry of the forest, then a position among
the children at each step.  Lexicographic order of places is document order, and in this order the walk
visits every place once (`mem_locatedAll`, `sorted_locatedAll`).  So a descriptor is refused exactly when
two places have the same slug (`make_refuses_iff`), and the slug that the error names stands at the first
place at which one occurs again (`make_eq_error_iff`).  A reader of the payload meets the slugs in the same
order (`outlineSlugs_toData`). -/
set_option autoImplicit false
namespace DocPages

theorem firstRepeated_eq_some_iff {seen l : List String} {s : String} :
    firstRepeated seen l = some s ↔ ∃ before after, l = before ++ s :: after ∧
      (s ∈ before ∨ s ∈ seen) ∧ before.Nodup ∧ ∀ t ∈ before, t ∉ seen := by
  induction l generalizing seen with
  | nil => simp [firstRepeated]
  | cons t rest ih =>
    rw [firstRepeated]
    by_cases known : t ∈ seen
    · rw [if_pos known]
      constructor
      · rintro ⟨⟩
        exact ⟨[], rest, rfl, Or.inr known, List.nodup_nil, fun _ mem => by cases mem⟩
      · rintro ⟨before, after, split, _, _, new⟩
        cases before with
        | nil =>
          cases split
          rfl
        | cons b before =>
          cases split
          exact absurd known (new t List.mem_cons_self)
    · rw [if_neg known, ih]
      constructor
      · rintro ⟨before, after, rfl, again, distinct, new⟩
        refine ⟨t :: before, after, rfl, ?_, List.nodup_cons.2 ⟨?_, distinct⟩, ?_⟩
        · rw [List.mem_cons] at again ⊢
          tauto
        · intro mem
          exact new t mem List.mem_cons_self
        · rw [List.forall_mem_cons]
          exact ⟨known, fun u mem seen => new u mem (List.mem_cons_of_mem _ seen)⟩
      · rintro ⟨before, after, split, again, distinct, new⟩
        cases before with
        | nil =>
          cases split
          exact absurd (again.resolve_left List.not_mem_nil) known
        | cons b before =>
          cases split
          rw [List.nodup_cons] at distinct
          rw [List.forall_mem_cons] at new
          refine ⟨before, after, rfl, ?_, distinct.2, fun u mem => ?_⟩
          · rw [List.mem_cons] at again ⊢
            tauto
          · rw [List.mem_cons, not_or]
            exact ⟨fun same => distinct.1 (same ▸ mem), new.2 u mem⟩

namespace Header

/-! ## Entries with their places -/

def within : Header → List Nat → Option Header
  | h, [] => some h
  | h, i :: way => h.children[i]?.bind fun child => child.within way

def at? (forest : List Header) : List Nat → Option Header
  | [] => none
  | i :: way => forest[i]?.bind fun h => h.within way

mutual
/-- The entry at position `i` and its descendants, each with its place, in document order. -/
def located (i : Nat) : Header → List (List Nat × Header)
  | ⟨level, title, slug, children⟩ =>
    ([i], ⟨level, title, slug, children⟩) ::
      (locatedAll 0 children).map fun e => (i :: e.1, e.2)

def locatedAll (i : Nat) : List Header → List (List Nat × Header)
  | [] => []
  | h :: hs => located i h ++ locatedAll (i + 1) hs
end

mutual
theorem map_located (i : Nat) : ∀ h : Header, (located i h).map Prod.snd = walk h
  | ⟨level, title, slug, children⟩ => by
    rw [located, walk, List.map_cons, List.map_map, ← map_locatedAll 0 children]
    rfl

theorem map_locatedAll (i : Nat) : ∀ hs : List Header, (locatedAll i hs).map Prod.snd = walkAll hs
  | [] => rfl
  | h :: hs => by
    rw [locatedAll, walkAll, List.map_append, map_located i h, map_locatedAll (i + 1) hs]
end

mutual
theorem mem_located (i : Nat) : ∀ (h : Header) (place : List Nat) (e : Header),
    (place, e) ∈ located i h ↔ ∃ way, place = i :: way ∧ h.within way = some e
  | ⟨level, title, slug, children⟩, place, e => by
    rw [located, List.mem_cons, List.mem_map]
    constructor
    · rintro (here | ⟨⟨place', e'⟩, mem, same⟩)
      · cases here
        exact ⟨[], rfl, rfl⟩
      · cases same
        obtain ⟨j, way, rfl, below⟩ := (mem_locatedAll 0 children _ _).1 mem
        rw [Nat.zero_add]
        exact ⟨j :: way, rfl, below⟩
    · rintro ⟨way, rfl, below⟩
      cases way with
      | nil =>
        cases below
        exact Or.inl rfl
      | cons j way =>
        refine Or.inr ⟨(j :: way, e), (mem_locatedAll 0 children _ _).2 ⟨j, way, ?_, below⟩, rfl⟩
        rw [Nat.zero_add]

theorem mem_locatedAll (i : Nat) : ∀ (hs : List Header) (place : List Nat) (e : Header),
    (place, e) ∈ locatedAll i hs ↔ ∃ j way, place = (i + j) :: way ∧ at? hs (j :: way) = some e
  | [], place, e => by simp [locatedAll, at?]
  | h :: hs, place, e => by
    rw [locatedAll, List.mem_append, mem_located i h, mem_locatedAll (i + 1) hs]
    constructor
    · rintro (⟨way, rfl, below⟩ | ⟨j, way, rfl, below⟩)
      · exact ⟨0, way, rfl, below⟩
      · exact ⟨j + 1, way, by rw [Nat.add_assoc, Nat.add_comm 1], below⟩
    · rintro ⟨j, way, rfl, below⟩
      cases j with
      | zero => exact Or.inl ⟨way, rfl, below⟩
      | succ j => exact Or.inr ⟨j, way, by rw [Nat.add_assoc, Nat.add_comm 1], below⟩
end

mutual
theorem sorted_located (i : Nat) : ∀ h : Header,
    (located i h).Pairwise fun a b => a.1 < b.1
  | ⟨level, title, slug, children⟩ => by
    rw [located, List.pairwise_cons, List.pairwise_map]
    constructor
    · intro e mem
      obtain ⟨⟨place, e'⟩, below, rfl⟩ := List.mem_map.1 mem
      obtain ⟨j, way, rfl, _⟩ := (mem_locatedAll 0 children _ _).1 below
      exact List.cons_lt_cons_iff.2 (Or.inr ⟨rfl, List.nil_lt_cons _ _⟩)
    · exact (sorted_locatedAll 0 children).imp fun before =>
        List.cons_lt_cons_iff.2 (Or.inr ⟨rfl, before⟩)

theorem sorted_locatedAll (i : Nat) : ∀ hs : List Header,
    (locatedAll i hs).Pairwise fun a b => a.1 < b.1
  | [] => List.Pairwise.nil
  | h :: hs => by
    rw [locatedAll, List.pairwise_append]
    refine ⟨sorted_located i h, sorted_locatedAll (i + 1) hs, ?_⟩
    rintro ⟨place, e⟩ mem ⟨place', e'⟩ mem'
    obtain ⟨way, rfl, _⟩ := (mem_located i h _ _).1 mem
    obtain ⟨j, way', rfl, _⟩ := (mem_locatedAll (i + 1) hs _ _).1 mem'
    exact List.cons_lt_cons_iff.2 (Or.inl (by omega))
end

section Forest
variable {forest : List Header} {place : List Nat} {e : Header}

theorem at?_eq_some_iff : at? forest place = some e ↔ (place, e) ∈ locatedAll 0 forest := by
  rw [mem_locatedAll]
  constructor
  · intro found
    cases place with
    | nil => cases found
    | cons j way => exact ⟨j, way, by rw [Nat.zero_add], found⟩
  · rintro ⟨j, way, rfl, found⟩
    rwa [Nat.zero_add]

theorem slugs_eq_map (forest : List Header) :
    slugs forest = (locatedAll 0 forest).map fun e => e.2.slug := by
  rw [slugs, ← map_locatedAll 0 forest, List.map_map]
  rfl

/-- What is visited before an entry is what has an earlier place. -/
theorem mem_before_iff {before after : List (List Nat × Header)}
    (split : locatedAll 0 forest = before ++ (place, e) :: after) (place' : List Nat)
    (e' : Header) : (place', e') ∈ before ↔ at? forest place' = some e' ∧ place' < place := by
  have sorted := sorted_locatedAll 0 forest
  rw [split, List.pairwise_append, List.pairwise_cons] at sorted
  obtain ⟨_, ⟨later, _⟩, earlier⟩ := sorted
  rw [at?_eq_some_iff, split, List.mem_append]
  constructor
  · intro mem
    exact ⟨Or.inl mem, earlier _ mem _ List.mem_cons_self⟩
  · rintro ⟨mem | mem, less⟩
    · exact mem
    · rcases List.mem_cons.1 mem with here | mem
      · cases here
        exact absurd less (lt_irrefl _)
      · exact absurd less (lt_asymm (later _ mem))

theorem nodup_slugs_iff : (slugs forest).Nodup ↔ ∀ p q h k, at? forest p = some h →
    at? forest q = some k → h.slug = k.slug → p = q := by
  rw [slugs_eq_map]
  constructor
  · intro distinct p q h k foundP foundQ same
    have entry := List.inj_on_of_nodup_map distinct (at?_eq_some_iff.1 foundP)
      (at?_eq_some_iff.1 foundQ) same
    exact congrArg Prod.fst entry
  · intro distinct
    rw [List.Nodup, List.pairwise_map]
    refine (sorted_locatedAll 0 forest).imp_of_mem fun {a b} memA memB before same => ?_
    have place := distinct a.1 b.1 a.2 b.2 (at?_eq_some_iff.2 memA) (at?_eq_some_iff.2 memB) same
    exact absurd before (place ▸ lt_irrefl _)

/-- At this place a slug occurs again, and it is the first such place. -/
structure FirstRepeat (forest : List Header) (place : List Nat) (slug : String) : Prop where
  found : ∃ h, at? forest place = some h ∧ h.slug = slug
  again : ∃ earlier h, earlier < place ∧ at? forest earlier = some h ∧ h.slug = slug
  first : ∀ p q h k, p < q → q < place → at? forest p = some h → at? forest q = some k →
    h.slug ≠ k.slug

theorem firstRepeated_iff_place {slug : String} :
    firstRepeated [] (slugs forest) = some slug ↔ ∃ place, FirstRepeat forest place slug := by
  rw [firstRepeated_eq_some_iff, slugs_eq_map]
  constructor
  · rintro ⟨before, after, split, again, distinct, _⟩
    obtain ⟨front, back, split, rfl, behind⟩ := List.map_eq_append_iff.1 split
    obtain ⟨⟨place, e⟩, rest, rfl, named, _⟩ := List.map_eq_cons_iff.1 behind
    have earlier := mem_before_iff split
    refine ⟨place, ⟨e, ?_, named⟩, ?_, fun p q h k less less' foundP foundQ same => ?_⟩
    · rw [at?_eq_some_iff, split]
      exact List.mem_append_right _ List.mem_cons_self
    · obtain ⟨⟨place', e'⟩, mem, same⟩ := List.mem_map.1 (again.resolve_right List.not_mem_nil)
      obtain ⟨found, less⟩ := (earlier _ _).1 mem
      exact ⟨place', e', less, found, same⟩
    · have entry := List.inj_on_of_nodup_map distinct
        ((earlier p h).2 ⟨foundP, lt_trans less less'⟩) ((earlier q k).2 ⟨foundQ, less'⟩) same
      cases entry
      exact absurd less (lt_irrefl _)
  · rintro ⟨place, ⟨e, found, named⟩, ⟨place', e', less, found', same⟩, first⟩
    obtain ⟨front, back, split⟩ := List.append_of_mem (at?_eq_some_iff.1 found)
    have earlier := mem_before_iff split
    refine ⟨front.map fun e => e.2.slug, back.map fun e => e.2.slug, ?_, Or.inl ?_, ?_,
      fun _ _ => List.not_mem_nil⟩
    · rw [split, List.map_append, List.map_cons, named]
    · exact List.mem_map.2 ⟨(place', e'), (earlier _ _).2 ⟨found', less⟩, same⟩
    · have sorted := sorted_locatedAll 0 forest
      rw [split, List.pairwise_append] at sorted
      rw [List.Nodup, List.pairwise_map]
      refine sorted.1.imp_of_mem fun {a b} memA memB before => ?_
      obtain ⟨foundA, _⟩ := (earlier a.1 a.2).1 memA
      obtain ⟨foundB, lessB⟩ := (earlier b.1 b.2).1 memB
      exact first a.1 b.1 a.2 b.2 before lessB foundA foundB

end Forest

/-! ## Outlines in a payload -/

def slugNamed (entries : List (String × Data)) : List String :=
  match entries.lookup "slug" with
  | some (.text slug) => [slug]
  | _ => []

mutual
def slugsIn : Data → List String
  | .mapping entries => slugNamed entries ++ slugsBelow entries
  | _ => []

def slugsListed : Data → List String
  | .list items => slugsInAll items
  | _ => []

def slugsInAll : List Data → List String
  | [] => []
  | d :: ds => slugsIn d ++ slugsInAll ds

def slugsBelow : List (String × Data) → List String
  | [] => []
  | (name, value) :: entries =>
    if name = "children" then slugsListed value else slugsBelow entries
end

mutual
theorem slugsIn_toData : ∀ h : Header, slugsIn h.toData = (walk h).map Header.slug
  | ⟨level, title, slug, children⟩ => by
    rw [toData, slugsIn, walk, List.map_cons, ← slugsInAll_toDataAll children]
    rfl

theorem slugsInAll_toDataAll : ∀ forest : List Header,
    slugsInAll (toDataAll forest) = (walkAll forest).map Header.slug
  | [] => rfl
  | h :: hs => by
    rw [toDataAll, slugsInAll, slugsIn_toData h, slugsInAll_toDataAll hs, walkAll, List.map_append]
end

end Header

/-- The slugs that a reader of the payload of a page meets in its outline. -/
def Data.outlineSlugs : Data → List String
  | .mapping entries => ((entries.lookup "headers").map Header.slugsListed).getD []
  | _ => []

namespace Descriptor

theorem outlineSlugs_toData (d : Descriptor) : d.toData.outlineSlugs = d.slugs := by
  rw [slugs, Header.slugs, ← Header.slugsInAll_toDataAll]
  rfl

/-! ## What is refused -/

section Make
variable {fields : PageFields} {d : Descriptor} {e : DescriptorError}

theorem toPageFields_of_make (made : make fields = .ok d) : d.toPageFields = fields := by
  unfold make at made
  split at made
  · cases made
  · cases made
    rfl

theorem make_eq_error_iff : make fields = .error e ↔ ∃ place slug,
    Header.FirstRepeat fields.headers place slug ∧ e = .repeatedSlug fields.key slug := by
  rw [exists_comm]
  simp only [exists_and_right, ← Header.firstRepeated_iff_place]
  unfold make
  split
  next slug repeated =>
    simp only [repeated, Except.error.injEq, Option.some.injEq, exists_eq_left', eq_comm]
  next accepted =>
    simp [accepted]

theorem make_refuses_iff : (∃ e, make fields = .error e) ↔ ∃ p q h k, p ≠ q ∧
    Header.at? fields.headers p = some h ∧ Header.at? fields.headers q = some k ∧
    h.slug = k.slug := by
  constructor
  · rintro ⟨e, refused⟩
    obtain ⟨place, slug, repeated, _⟩ := make_eq_error_iff.1 refused
    obtain ⟨h, found, named⟩ := repeated.found
    obtain ⟨earlier, k, before, found', named'⟩ := repeated.again
    exact ⟨earlier, place, k, h, before.ne, found', found, named'.trans named.symm⟩
  · rintro ⟨p, q, h, k, apart, foundP, foundQ, same⟩
    cases made : make fields with
    | error e => exact ⟨e, rfl⟩
    | ok d =>
      cases toPageFields_of_make made
      exact absurd (Header.nodup_slugs_iff.1 d.nodup_slugs p q h k foundP foundQ same) apart

end Make
end Descriptor
end DocPages
