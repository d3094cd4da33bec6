import DocPages.Proofs.Action
import DocPages.Proofs.Frontend.Cache
/-! # Runs of the frontend page

A run is any sequence of renderings, accesses and warm-ups at the cache of the page.  Each rendering
that finds the marker makes six objects of its own and takes the other nodes from the cache
(`render_eq_layout`).  Along a run the cache grows by exactly these objects, and what was returned on the way
is still what the cache holds at the end (`explains_performAll`). -/
set_option autoImplicit false
namespace DocPages.Frontend

def stored (cache : FragmentCache) (name : String) : Object :=
  (cache.fragments.find? name).getD default

def Complete (cache : FragmentCache) : Prop :=
  ∀ name ∈ names, cache.fragments.find? name = some (stored cache name)

section Stored
variable {own : List Identity} {before after cache : FragmentCache}

theorem stored_eq {name : String} {o : Object} (found : cache.fragments.find? name = some o) :
    stored cache name = o := by
  rw [stored, found, Option.getD_some]

theorem complete_iff : Complete cache ↔ ∀ name ∈ names, ∃ o, cache.fragments.find? name = some o := by
  constructor
  · intro complete name known
    exact ⟨_, complete name known⟩
  · intro all name known
    obtain ⟨o, found⟩ := all name known
    rw [found, stored_eq found]

theorem Grows.complete (grows : Grows own before after) (complete : Complete before) :
    Complete after := by
  refine complete_iff.2 fun name known => ?_
  exact ⟨_, grows.kept name _ (complete name known)⟩

theorem Grows.stored_eq (grows : Grows own before after) (complete : Complete before) {name : String}
    (known : name ∈ names) : stored after name = stored before name :=
  Frontend.stored_eq (grows.kept name _ (complete name known))

end Stored

/-! ## Renderings -/

/-- The identities of the objects that one rendering makes, in the order in which it makes them. -/
structure Made where
  coverage : Identity
  company : Identity
  warning : Identity
  download : Identity
  login : Identity
  steps : Identity

def Made.all (made : Made) : List Identity :=
  [made.coverage, made.company, made.warning, made.download, made.login, made.steps]

/-- The nodes of a page from its marker, its static parts and the identities of its own objects. -/
def layout (marker : Component) (part : String → Object) (made : Made) : List Tracked :=
  [.object (part "heading"), .object (part "intro"),
    .element made.warning "div" [("class", "custom-container warning")]
      [part "warning-title", part "license-notice", ⟨made.coverage, coverage marker⟩,
        part "commercial-uses", ⟨made.company, companyUse marker⟩],
    .object (part "installation"),
    .element made.steps "ul" []
      [⟨made.download, downloadStep marker⟩, part "unpack-step", part "open-step",
        ⟨made.login, loginStep marker⟩],
    .object (part "closing")]

theorem layout_congr {part part' : String → Object} (same : ∀ name ∈ names, part name = part' name)
    (marker : Component) (made : Made) : layout marker part made = layout marker part' made := by
  simp only [names, parts, List.map_cons, List.map_nil, List.forall_mem_cons] at same
  obtain ⟨heading, intro, title, notice, uses, installation, unpack, openUrl, closing, _⟩ := same
  simp only [layout, heading, intro, title, notice, uses, installation, unpack, openUrl, closing]

section Rendering
variable {cache : FragmentCache}

theorem fragment_eq_ok (sound : Sound cache) {name : String} (known : name ∈ names) :
    ∃ o after, fragment name cache = (.ok o, after) ∧ Grows [] cache after ∧
      after.fragments.find? name = some o := by
  obtain ⟨o, after, got, grows, found⟩ := get_eq_ok sound known
  refine ⟨o, after, ?_, grows, found⟩
  rw [fragment, got]

theorem newObject_eq_ok (sound : Sound cache) (node : Node) :
    ∃ i after, newObject node cache = (.ok ⟨i, node⟩, after) ∧ Grows [i] cache after :=
  ⟨_, _, rfl, grows_fresh sound⟩

theorem fresh_eq_ok (sound : Sound cache) :
    ∃ i after, fresh cache = (.ok i, after) ∧ Grows [i] cache after :=
  ⟨_, _, rfl, grows_fresh sound⟩

theorem warning_eq_ok (sound : Sound cache) (marker : Component) :
    ∃ title notice uses coverageId companyId identity after,
      warning marker cache = (.ok (.element identity "div" [("class", "custom-container warning")]
        [title, notice, ⟨coverageId, coverage marker⟩, uses, ⟨companyId, companyUse marker⟩]), after) ∧
      Grows [coverageId, companyId, identity] cache after ∧
      after.fragments.find? "warning-title" = some title ∧
      after.fragments.find? "license-notice" = some notice ∧
      after.fragments.find? "commercial-uses" = some uses := by
  obtain ⟨title, c₁, ran₁, grows₁, found₁⟩ := fragment_eq_ok sound
    (by decide : "warning-title" ∈ names)
  obtain ⟨notice, c₂, ran₂, grows₂, found₂⟩ := fragment_eq_ok grows₁.sound
    (by decide : "license-notice" ∈ names)
  obtain ⟨coverageId, c₃, ran₃, grows₃⟩ := newObject_eq_ok grows₂.sound (coverage marker)
  obtain ⟨uses, c₄, ran₄, grows₄, found₄⟩ := fragment_eq_ok grows₃.sound
    (by decide : "commercial-uses" ∈ names)
  obtain ⟨companyId, c₅, ran₅, grows₅⟩ := newObject_eq_ok grows₄.sound (companyUse marker)
  obtain ⟨identity, after, ran₆, grows₆⟩ := fresh_eq_ok grows₅.sound
  have late := grows₅.trans grows₆
  have late₂ := grows₃.trans (grows₄.trans late)
  refine ⟨title, notice, uses, coverageId, companyId, identity, after, ?_, ?_, ?_, ?_, ?_⟩
  · rw [warning, Action.bind_of_ok ran₁, Action.bind_of_ok ran₂, Action.bind_of_ok ran₃,
      Action.bind_of_ok ran₄, Action.bind_of_ok ran₅, Action.bind_of_ok ran₆]
    rfl
  · exact grows₁.trans (grows₂.trans late₂)
  · exact (grows₂.trans late₂).kept _ _ found₁
  · exact late₂.kept _ _ found₂
  · exact late.kept _ _ found₄

theorem downloadSteps_eq_ok (sound : Sound cache) (marker : Component) :
    ∃ unpack openUrl downloadId loginId identity after,
      downloadSteps marker cache = (.ok (.element identity "ul" []
        [⟨downloadId, downloadStep marker⟩, unpack, openUrl, ⟨loginId, loginStep marker⟩]), after) ∧
      Grows [downloadId, loginId, identity] cache after ∧
      after.fragments.find? "unpack-step" = some unpack ∧
      after.fragments.find? "open-step" = some openUrl := by
  obtain ⟨downloadId, c₁, ran₁, grows₁⟩ := newObject_eq_ok sound (downloadStep marker)
  obtain ⟨unpack, c₂, ran₂, grows₂, found₂⟩ := fragment_eq_ok grows₁.sound
    (by decide : "unpack-step" ∈ names)
  obtain ⟨openUrl, c₃, ran₃, grows₃, found₃⟩ := fragment_eq_ok grows₂.sound
    (by decide : "open-step" ∈ names)
  obtain ⟨loginId, c₄, ran₄, grows₄⟩ := newObject_eq_ok grows₃.sound (loginStep marker)
  obtain ⟨identity, after, ran₅, grows₅⟩ := fresh_eq_ok grows₄.sound
  have late := grows₄.trans grows₅
  refine ⟨unpack, openUrl, downloadId, loginId, identity, after, ?_, ?_, ?_, ?_⟩
  · rw [downloadSteps, Action.bind_of_ok ran₁, Action.bind_of_ok ran₂, Action.bind_of_ok ran₃,
      Action.bind_of_ok ran₄, Action.bind_of_ok ran₅]
    rfl
  · exact grows₁.trans (grows₂.trans (grows₃.trans late))
  · exact (grows₃.trans late).kept _ _ found₂
  · exact late.kept _ _ found₃

/-- With a marker the page is rendered, and the whole cache is built afterwards. -/
theorem render_eq_layout (sound : Sound cache) {context : Context} {marker : Component}
    (provides : context.resolve OutboundLink.name = .ok marker) :
    ∃ made after, renderTracked context cache = (.ok (layout marker (stored after) made), after) ∧
      Grows made.all cache after ∧ Complete after := by
  obtain ⟨heading, c₁, ran₁, grows₁, found₁⟩ := fragment_eq_ok sound (by decide : "heading" ∈ names)
  obtain ⟨intro, c₂, ran₂, grows₂, found₂⟩ := fragment_eq_ok grows₁.sound
    (by decide : "intro" ∈ names)
  obtain ⟨title, notice, uses, coverageId, companyId, warningId, c₃, ran₃, grows₃, foundTitle,
    foundNotice, foundUses⟩ := warning_eq_ok grows₂.sound marker
  obtain ⟨installation, c₄, ran₄, grows₄, found₄⟩ := fragment_eq_ok grows₃.sound
    (by decide : "installation" ∈ names)
  obtain ⟨unpack, openUrl, downloadId, loginId, stepsId, c₅, ran₅, grows₅, foundUnpack,
    foundOpen⟩ := downloadSteps_eq_ok grows₄.sound marker
  obtain ⟨closing, after, ran₆, grows₆, found₆⟩ := fragment_eq_ok grows₅.sound
    (by decide : "closing" ∈ names)
  have from₄ := grows₅.trans grows₆
  have from₃ := grows₄.trans from₄
  have from₂ := grows₃.trans from₃
  have from₁ := grows₂.trans from₂
  have headingAfter := from₁.kept _ _ found₁
  have introAfter := from₂.kept _ _ found₂
  have titleAfter := from₃.kept _ _ foundTitle
  have noticeAfter := from₃.kept _ _ foundNotice
  have usesAfter := from₃.kept _ _ foundUses
  have installationAfter := from₄.kept _ _ found₄
  have unpackAfter := grows₆.kept _ _ foundUnpack
  have openAfter := grows₆.kept _ _ foundOpen
  refine ⟨⟨coverageId, companyId, warningId, downloadId, loginId, stepsId⟩, after, ?_, ?_, ?_⟩
  · simp only [renderTracked, provides, pure_bind]
    rw [Action.bind_of_ok ran₁, Action.bind_of_ok ran₂, Action.bind_of_ok ran₃,
      Action.bind_of_ok ran₄, Action.bind_of_ok ran₅, Action.bind_of_ok ran₆]
    rw [layout, stored_eq headingAfter, stored_eq introAfter, stored_eq titleAfter,
      stored_eq noticeAfter, stored_eq usesAfter, stored_eq installationAfter,
      stored_eq unpackAfter, stored_eq openAfter, stored_eq found₆]
    rfl
  · exact grows₁.trans from₁
  · refine complete_iff.2 ?_
    simp only [names, parts, List.map_cons, List.map_nil, List.forall_mem_cons]
    exact ⟨⟨_, headingAfter⟩, ⟨_, introAfter⟩, ⟨_, titleAfter⟩, ⟨_, noticeAfter⟩, ⟨_, usesAfter⟩,
      ⟨_, installationAfter⟩, ⟨_, unpackAfter⟩, ⟨_, openAfter⟩, ⟨_, found₆⟩,
      fun name mem => by cases mem⟩

theorem render_eq_error {context : Context} {e : ResolutionError}
    (lacks : context.resolve OutboundLink.name = .error e) (cache : FragmentCache) :
    renderTracked context cache = (.error (.component e), cache) := by
  simp only [renderTracked, lacks]
  rfl

end Rendering

/-! ## Runs -/

inductive Operation
  | render (context : Context)
  | get (name : String)
  | warm

inductive Outcome
  | rendered (result : Except PageError (List Tracked))
  | got (name : String) (result : Except FragmentError Object)
  | warmed (result : Except FragmentError Unit)

def perform (cache : FragmentCache) : Operation → FragmentCache × Outcome
  | .render context =>
    let (result, after) := renderTracked context cache
    (after, .rendered result)
  | .get name =>
    let (after, result) := cache.get name
    (after, .got name result)
  | .warm =>
    let (after, result) := cache.warm
    (after, .warmed result)

/-- Performs the operations in turn; one that fails does not stop the others. -/
def performAll (cache : FragmentCache) : List Operation → FragmentCache × List Outcome
  | [] => (cache, [])
  | operation :: rest =>
    let (next, outcome) := perform cache operation
    let (last, outcomes) := performAll next rest
    (last, outcome :: outcomes)

def Outcome.tree? : Outcome → Option (List Tracked)
  | .rendered (.ok nodes) => some nodes
  | _ => none

def trees (outcomes : List Outcome) : List (List Tracked) := outcomes.filterMap Outcome.tree?

/-- Every tree is laid out from the fragments of the last cache and from objects of its own, and what
was returned for a fragment is stored there. -/
structure Explains (pages : List (Component × Made)) (before after : FragmentCache)
    (outcomes : List Outcome) : Prop where
  grows : Grows (pages.flatMap fun p => p.2.all) before after
  layouts : trees outcomes = pages.map fun p => layout p.1 (stored after) p.2
  complete : pages ≠ [] → Complete after
  got : ∀ name result, .got name result ∈ outcomes → name ∈ names →
    ∃ o, after.fragments.find? name = some o ∧ result = .ok o

section Runs
variable {before middle after cache : FragmentCache}

theorem Explains.append {pages pages' : List (Component × Made)} {outcomes outcomes' : List Outcome}
    (first : Explains pages before middle outcomes) (second : Explains pages' middle after outcomes') :
    Explains (pages ++ pages') before after (outcomes ++ outcomes') where
  grows := by
    rw [List.flatMap_append]
    exact first.grows.trans second.grows
  layouts := by
    have kept : pages.map (fun p => layout p.1 (stored middle) p.2) =
        pages.map fun p => layout p.1 (stored after) p.2 := by
      apply List.map_congr_left
      intro p mem
      have complete := first.complete (List.ne_nil_of_mem mem)
      exact layout_congr (fun name known => (second.grows.stored_eq complete known).symm) _ _
    rw [trees, List.filterMap_append, List.map_append, ← kept, ← first.layouts, ← second.layouts]
    rfl
  complete := by
    intro rendered
    by_cases later : pages' = []
    · rw [later, List.append_nil] at rendered
      exact second.grows.complete (first.complete rendered)
    · exact second.complete later
  got := by
    intro name result mem known
    rcases List.mem_append.1 mem with mem | mem
    · obtain ⟨o, found, rfl⟩ := first.got name result mem known
      exact ⟨o, second.grows.kept name o found, rfl⟩
    · exact second.got name result mem known

theorem explains_of_grows (grows : Grows [] before after) {outcome : Outcome}
    (noTree : outcome.tree? = none)
    (got : ∀ name result, outcome = .got name result → name ∈ names →
      ∃ o, after.fragments.find? name = some o ∧ result = .ok o) :
    Explains [] before after [outcome] where
  grows := grows
  layouts := by
    rw [trees, List.filterMap_cons, noTree]
    rfl
  complete := fun rendered => absurd rfl rendered
  got := fun name result mem => got name result (List.mem_singleton.1 mem).symm

theorem explains_perform (sound : Sound cache) (operation : Operation) :
    ∃ pages, Explains pages cache (perform cache operation).1 [(perform cache operation).2] := by
  cases operation with
  | render context =>
    cases resolved : context.resolve OutboundLink.name with
    | ok marker =>
      obtain ⟨made, after, ran, grows, complete⟩ := render_eq_layout sound resolved
      rw [perform, ran]
      refine ⟨[(marker, made)], ?_, rfl, fun _ => complete, fun name result mem => ?_⟩
      · simpa using grows
      · cases List.mem_singleton.1 mem
    | error e =>
      rw [perform, render_eq_error resolved]
      exact ⟨[], explains_of_grows (.refl sound) rfl fun _ _ other => by cases other⟩
  | get name =>
    rw [perform]
    by_cases known : name ∈ names
    · obtain ⟨o, after, got, grows, found⟩ := get_eq_ok sound known
      rw [got]
      refine ⟨[], explains_of_grows grows rfl ?_⟩
      intro _ _ same _
      cases same
      exact ⟨o, found, rfl⟩
    · rw [get_of_unknown sound known]
      refine ⟨[], explains_of_grows (.refl sound) rfl ?_⟩
      intro _ _ same also
      cases same
      exact absurd also known
  | warm =>
    obtain ⟨after, ran, grows, _⟩ := warm_eq_ok sound
    rw [perform, ran]
    exact ⟨[], explains_of_grows grows rfl fun _ _ other => by cases other⟩

theorem explains_performAll (sound : Sound cache) (operations : List Operation) :
    ∃ pages, Explains pages cache (performAll cache operations).1
      (performAll cache operations).2 := by
  induction operations generalizing cache with
  | nil => exact ⟨[], .refl sound, rfl, fun rendered => absurd rfl rendered, fun _ _ mem => by cases mem⟩
  | cons operation rest ih =>
    obtain ⟨pages, first⟩ := explains_perform sound operation
    obtain ⟨pages', second⟩ := ih first.grows.sound
    exact ⟨pages ++ pages', first.append second⟩

theorem sound_performAll (operations : List Operation) : Sound (performAll newCache operations).1 := by
  obtain ⟨_, explains⟩ := explains_performAll sound_newCache operations
  exact explains.grows.sound

end Runs
end DocPages.Frontend
