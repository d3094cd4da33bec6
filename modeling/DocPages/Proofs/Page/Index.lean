import DocPages.Page.Index
/-! # An index is an append-only list

Both tables of an index hold the pages that it has accepted, in the order in which they came
(`Holds`).  Next to them a page is accepted unless its key or its route is one of theirs, and a page
that is rejected leaves the index as it was (`Holds.register`).  So whatever was tried on an index, its
observers answer from the list of accepted pages (`mirrors_accepted`). -/
set_option autoImplicit false
namespace DocPages.PageIndex

/-- What a page is rejected for next to the accepted ones: a taken key comes before a taken route. -/
def clash (accepted : List Page) (page : Page) : Option DescriptorError :=
  if ∃ q ∈ accepted, q.key = page.key then some (.duplicateKey page.key)
  else if ∃ q ∈ accepted, q.descriptor.path = page.descriptor.path then
    some (.duplicatePath page.descriptor.path)
  else none

/-- Both checks read the index as it was, and only a page that passes them changes it. -/
theorem register_eq (index : PageIndex) (page : Page) :
    register page index =
      if index.byKey.contains page.key then (.error (.duplicateKey page.key), index)
      else if index.byPath.contains page.descriptor.path then
        (.error (.duplicatePath page.descriptor.path), index)
      else (.ok (),
        ⟨index.byKey.insert page.key page, index.byPath.insert page.descriptor.path page⟩) := by
  change (ite _ _ (ite _ _ _) : Registering Unit) index = _
  split
  next => rfl
  next =>
    split
    next => rfl
    next => rfl

/-- A table holds pages, in this order, each under one of its names. -/
def Lists (name : Page → String) (table : Table String Page) (pages : List Page) : Prop :=
  table.entries = pages.map fun p => (name p, p)

namespace Lists
variable {name : Page → String} {table : Table String Page} {pages : List Page}

theorem keys_eq (h : Lists name table pages) : table.keys = pages.map name := by
  rw [Table.keys, h, List.map_map]
  rfl

theorem values_eq (h : Lists name table pages) : table.values = pages := by
  rw [Table.values, h, List.map_map]
  exact List.map_id pages

theorem nodup (h : Lists name table pages) : (pages.map name).Nodup := by
  rw [← h.keys_eq]
  exact table.nodup

theorem contains_iff (h : Lists name table pages) (k : String) :
    table.contains k = true ↔ ∃ q ∈ pages, name q = k := by
  rw [Table.contains_iff, h.keys_eq, List.mem_map]

theorem find?_eq_some_iff (h : Lists name table pages) (k : String) (page : Page) :
    table.find? k = some page ↔ page ∈ pages ∧ name page = k := by
  rw [Table.find?_eq_some_iff, h, List.mem_map]
  constructor
  · rintro ⟨q, mem, same⟩
    cases same
    exact ⟨mem, rfl⟩
  · rintro ⟨mem, rfl⟩
    exact ⟨page, mem, rfl⟩

theorem find?_cases (h : Lists name table pages) (k : String) :
    (∃ page, table.find? k = some page ∧ page ∈ pages ∧ name page = k ∧
      ∀ q ∈ pages, name q = k → q = page) ∨
    table.find? k = none ∧ ∀ q ∈ pages, name q ≠ k := by
  cases found : table.find? k with
  | some page =>
    left
    obtain ⟨mem, same⟩ := (h.find?_eq_some_iff k page).1 found
    refine ⟨page, rfl, mem, same, fun q mem' same' => ?_⟩
    have again := (h.find?_eq_some_iff k q).2 ⟨mem', same'⟩
    exact Option.some.inj (again.symm.trans found)
  | none =>
    right
    refine ⟨rfl, fun q mem same => ?_⟩
    rw [(h.find?_eq_some_iff k q).2 ⟨mem, same⟩] at found
    cases found

theorem insert (h : Lists name table pages) {page : Page}
    (new : ¬ ∃ q ∈ pages, name q = name page) :
    Lists name (table.insert (name page) page) (pages ++ [page]) := by
  have absent : name page ∉ table.keys := by
    rwa [h.keys_eq, List.mem_map]
  rw [Lists, Table.entries_insert_of_notMem absent, h, List.map_append]
  rfl

end Lists

/-- Both tables of an index hold these pages, in this order. -/
structure Holds (index : PageIndex) (accepted : List Page) : Prop where
  byKey : Lists Page.key index.byKey accepted
  byPath : Lists (fun p => p.descriptor.path) index.byPath accepted

namespace Holds
variable {index : PageIndex} {accepted : List Page}

theorem empty : Holds PageIndex.empty [] := ⟨rfl, rfl⟩

theorem register (h : Holds index accepted) (page : Page) :
    (∃ e, clash accepted page = some e ∧ PageIndex.register page index = (.error e, index)) ∨
    (clash accepted page = none ∧ ∃ index',
      PageIndex.register page index = (.ok (), index') ∧ Holds index' (accepted ++ [page])) := by
  rw [register_eq, clash]
  simp only [h.byKey.contains_iff, h.byPath.contains_iff]
  by_cases key : ∃ q ∈ accepted, q.key = page.key
  · left
    exact ⟨_, if_pos key, if_pos key⟩
  · rw [if_neg key, if_neg key]
    by_cases path : ∃ q ∈ accepted, q.descriptor.path = page.descriptor.path
    · left
      exact ⟨_, if_pos path, if_pos path⟩
    · right
      rw [if_neg path, if_neg path]
      exact ⟨rfl, _, rfl, h.byKey.insert key, h.byPath.insert path⟩

end Holds

/-! ## Runs -/

def registerEach (attempts : List Page) : StateM PageIndex (List (Except DescriptorError Unit)) :=
  attempts.mapM fun page => (register page).run

def acceptedOf (attempts : List Page) (answers : List (Except DescriptorError Unit)) : List Page :=
  (attempts.zip answers).filterMap fun
    | (page, .ok ()) => some page
    | (_, .error _) => none

theorem registerEach_cons (page : Page) (attempts : List Page) (index : PageIndex) :
    registerEach (page :: attempts) index =
      ((register page index).1 :: (registerEach attempts (register page index).2).1,
        (registerEach attempts (register page index).2).2) := by
  rw [registerEach, List.mapM_cons]
  rfl

theorem Holds.registerEach {index : PageIndex} {accepted : List Page} (h : Holds index accepted)
    (attempts : List Page) :
    Holds (PageIndex.registerEach attempts index).2
      (accepted ++ acceptedOf attempts (PageIndex.registerEach attempts index).1) := by
  induction attempts generalizing index accepted with
  | nil =>
    rw [acceptedOf, List.zip_nil_left, List.filterMap_nil, List.append_nil]
    exact h
  | cons page attempts ih =>
    rw [registerEach_cons]
    rcases h.register page with ⟨e, _, rejected⟩ | ⟨_, index', taken, after⟩
    · rw [rejected]
      exact ih h
    · rw [taken]
      have rest := ih after
      rw [List.append_assoc] at rest
      exact rest

theorem add_eq_of_register_error {index : PageIndex} {page : Page} {e : DescriptorError}
    (rejected : register page index = (.error e, index)) : index.add page = .error e := by
  rw [add, rejected]

theorem add_eq_of_register_ok {index index' : PageIndex} {page : Page}
    (taken : register page index = (.ok (), index')) : index.add page = .ok index' := by
  rw [add, taken]

theorem Holds.ofPages {index : PageIndex} {accepted : List Page} (h : Holds index accepted)
    (pages : List Page) :
    (∃ index', pages.foldlM add index = .ok index' ∧ Holds index' (accepted ++ pages)) ∨
    ∃ e before page rest, pages.foldlM add index = .error e ∧ pages = before ++ page :: rest ∧
      clash (accepted ++ before) page = some e ∧
      ∃ index', before.foldlM add index = .ok index' := by
  induction pages generalizing index accepted with
  | nil =>
    left
    rw [List.append_nil]
    exact ⟨index, rfl, h⟩
  | cons page rest ih =>
    rw [List.foldlM_cons]
    rcases h.register page with ⟨e, clashes, rejected⟩ | ⟨_, index', taken, after⟩
    · right
      rw [add_eq_of_register_error rejected]
      refine ⟨e, [], page, rest, rfl, rfl, ?_, index, rfl⟩
      rwa [List.append_nil]
    · rw [add_eq_of_register_ok taken]
      rcases ih after with ⟨last, built, holds⟩ | ⟨e, before, bad, later, failed, split, clashes, built⟩
      · left
        rw [List.append_assoc] at holds
        exact ⟨last, built, holds⟩
      · right
        rw [List.append_assoc] at clashes
        refine ⟨e, page :: before, bad, later, failed, by rw [split]; rfl, clashes, ?_⟩
        rw [List.foldlM_cons, add_eq_of_register_ok taken]
        exact built

theorem holds_of_ofPages {index : PageIndex} {pages : List Page}
    (built : PageIndex.ofPages pages = .ok index) : Holds index pages := by
  rcases Holds.empty.ofPages pages with ⟨index', built', holds⟩ | ⟨e, _, _, _, failed, _⟩
  · cases built'.symm.trans built
    exact holds
  · cases failed.symm.trans built

/-! ## Observers -/

/-- What can be seen of an index is what the list of accepted pages says. -/
structure Mirrors (index : PageIndex) (accepted : List Page) : Prop extends Holds index accepted where
  pages : index.pages = accepted
  descriptors : index.descriptors = accepted.map Page.descriptor
  size : index.size = accepted.length
  get : ∀ key,
    (∃ page, index.get key = .ok page ∧ page ∈ accepted ∧ page.key = key ∧
      ∀ q ∈ accepted, q.key = key → q = page) ∨
    index.get key = .error (.unknownKey key (accepted.map Page.key)) ∧ ∀ q ∈ accepted, q.key ≠ key
  atPath : ∀ path,
    (∃ page, index.atPath path = .ok page ∧ page ∈ accepted ∧ page.descriptor.path = path ∧
      ∀ q ∈ accepted, q.descriptor.path = path → q = page) ∨
    index.atPath path = .error (.unservedPath path) ∧ ∀ q ∈ accepted, q.descriptor.path ≠ path
  /-- A page is found as one object under its key and under its route. -/
  shared : ∀ page ∈ accepted,
    index.get page.key = .ok page ∧ index.atPath page.descriptor.path = .ok page
  rejects : ∀ page e, clash accepted page = some e → register page index = (.error e, index)
  accepts : ∀ page, clash accepted page = none →
    ∃ index', register page index = (.ok (), index') ∧ Holds index' (accepted ++ [page])

namespace Holds
variable {index : PageIndex} {accepted : List Page}

theorem get_cases (h : Holds index accepted) (key : String) :
    (∃ page, index.get key = .ok page ∧ page ∈ accepted ∧ page.key = key ∧
      ∀ q ∈ accepted, q.key = key → q = page) ∨
    index.get key = .error (.unknownKey key (accepted.map Page.key)) ∧
      ∀ q ∈ accepted, q.key ≠ key := by
  rw [get, h.byKey.keys_eq]
  rcases h.byKey.find?_cases key with ⟨page, found, mem, same, only⟩ | ⟨missing, other⟩
  · left
    exact ⟨page, by rw [found], mem, same, only⟩
  · right
    exact ⟨by rw [missing], other⟩

theorem atPath_cases (h : Holds index accepted) (path : String) :
    (∃ page, index.atPath path = .ok page ∧ page ∈ accepted ∧ page.descriptor.path = path ∧
      ∀ q ∈ accepted, q.descriptor.path = path → q = page) ∨
    index.atPath path = .error (.unservedPath path) ∧
      ∀ q ∈ accepted, q.descriptor.path ≠ path := by
  rw [atPath]
  rcases h.byPath.find?_cases path with ⟨page, found, mem, same, only⟩ | ⟨missing, other⟩
  · left
    exact ⟨page, by rw [found], mem, same, only⟩
  · right
    exact ⟨by rw [missing], other⟩

theorem mirrors (h : Holds index accepted) : Mirrors index accepted where
  toHolds := h
  pages := h.byKey.values_eq
  descriptors := congrArg (List.map Page.descriptor) h.byKey.values_eq
  size := by rw [PageIndex.size, Table.size, h.byKey, List.length_map]
  get := h.get_cases
  atPath := h.atPath_cases
  shared := fun page mem => by
    constructor
    · rw [PageIndex.get, (h.byKey.find?_eq_some_iff _ page).2 ⟨mem, rfl⟩]
    · rw [PageIndex.atPath, (h.byPath.find?_eq_some_iff _ page).2 ⟨mem, rfl⟩]
  rejects := fun page e clashes => by
    rcases h.register page with ⟨e', clashes', rejected⟩ | ⟨free, _⟩
    · rw [clashes] at clashes'
      cases clashes'
      exact rejected
    · rw [clashes] at free
      cases free
  accepts := fun page free => by
    rcases h.register page with ⟨e, clashes, _⟩ | ⟨_, taken⟩
    · rw [free] at clashes
      cases clashes
    · exact taken

end Holds

/-- However an index was built and whatever was tried on it since, it mirrors the list of the pages that
it accepted; it is not built at all if one of the first pages clashes with those before it. -/
theorem mirrors_accepted (init attempts : List Page) :
    match ofPages init with
    | .ok start =>
      Mirrors (registerEach attempts start).2
        (init ++ acceptedOf attempts (registerEach attempts start).1)
    | .error e =>
      ∃ before page rest, init = before ++ page :: rest ∧ clash before page = some e ∧
        ∃ index, ofPages before = .ok index := by
  rcases Holds.empty.ofPages init with ⟨start, built, holds⟩ |
    ⟨e, before, page, rest, failed, split, clashes, built⟩
  · rw [ofPages, built]
    exact (holds.registerEach attempts).mirrors
  · rw [ofPages, failed]
    exact ⟨before, page, rest, split, clashes, built⟩

end DocPages.PageIndex
