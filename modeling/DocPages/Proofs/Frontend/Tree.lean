import DocPages.Proofs.Frontend.Run
/-! # The tree of the frontend page

Whatever happened at the cache before, a rendering gives the tree that the builders give when they are
called without a cache.  This tree is a function of the marker alone, and the identity of the marker
can be read off from it. -/
set_option autoImplicit false
namespace DocPages.Frontend

/-- What a builder returns to a caller without a cache. -/
def afresh (calls : String → Call) (name : String) : Except FragmentError Node :=
  match builders.find? name with
  | some builder => (builder (calls name)).map Object.node
  | none => .error (.unknown name builders.keys)

def renderAfresh (calls : String → Call) (marker : Component) : Except FragmentError Node := do
  let heading ← afresh calls "heading"
  let intro ← afresh calls "intro"
  let title ← afresh calls "warning-title"
  let notice ← afresh calls "license-notice"
  let uses ← afresh calls "commercial-uses"
  let installation ← afresh calls "installation"
  let unpack ← afresh calls "unpack-step"
  let openUrl ← afresh calls "open-step"
  let closing ← afresh calls "closing"
  return .fragment [heading, intro,
    .element "div" [("class", "custom-container warning")]
      [title, notice, coverage marker, uses, companyUse marker],
    installation,
    .element "ul" [] [downloadStep marker, unpack, openUrl, loginStep marker],
    closing]

def tree (marker : Component) : Node :=
  .fragment [heading, intro,
    .element "div" [("class", "custom-container warning")]
      [warningTitle, licenseNotice, coverage marker, commercialUses, companyUse marker],
    installation,
    .element "ul" [] [downloadStep marker, unpackStep, openStep, loginStep marker],
    closing]

theorem afresh_of_part (calls : String → Call) {name : String} {node : Node}
    (part : parts.lookup name = some node) : afresh calls name = .ok node := by
  rw [afresh, find?_builders, part]
  rfl

theorem renderAfresh_eq (calls : String → Call) (marker : Component) :
    renderAfresh calls marker = .ok (tree marker) := by
  have each := fun name node => @afresh_of_part calls name node
  rw [renderAfresh, each "heading" _ rfl, each "intro" _ rfl, each "warning-title" _ rfl,
    each "license-notice" _ rfl, each "commercial-uses" _ rfl, each "installation" _ rfl,
    each "unpack-step" _ rfl, each "open-step" _ rfl, each "closing" _ rfl]
  rfl

theorem treeOf_layout {cache : FragmentCache} (sound : Sound cache) (complete : Complete cache)
    (marker : Component) (made : Made) : treeOf (layout marker (stored cache) made) = tree marker := by
  have each : ∀ name node, parts.lookup name = some node → (stored cache name).node = node := by
    intro name node part
    have found := sound.parts name _ (complete name (known_of_part part))
    rw [part] at found
    exact (Option.some.inj found).symm
  simp only [treeOf, layout, tree, List.map_cons, List.map_nil, Tracked.node]
  rw [each "heading" _ rfl, each "intro" _ rfl, each "warning-title" _ rfl,
    each "license-notice" _ rfl, each "commercial-uses" _ rfl, each "installation" _ rfl,
    each "unpack-step" _ rfl, each "open-step" _ rfl, each "closing" _ rfl]

/-! ## Equal trees -/

theorem same_part : ∀ e ∈ parts, e.2.same e.2 = true := by
  -- comparing a text with itself letter by letter would take long
  simp only [parts, List.forall_mem_cons, heading, intro, warningTitle, licenseNotice, commercialUses,
    installation, unpackStep, openStep, closing, Node.same, Node.sameAll, beq_self_eq_true,
    Bool.and_self, true_and]
  intro e mem
  cases mem

theorem same_outbound (href label : String) (marker marker' : Component) :
    (outbound href label marker).same (outbound href label marker') =
      (marker.identity == marker'.identity) := by
  simp [outbound, Component.node, Node.same, Node.sameAll]

theorem same_tree (marker marker' : Component) :
    (tree marker).same (tree marker') = (marker.identity == marker'.identity) := by
  have part := same_part
  simp only [parts, List.forall_mem_cons] at part
  obtain ⟨heading, intro, title, notice, uses, installation, unpack, openUrl, closing, _⟩ := part
  simp [tree, Node.same, Node.sameAll, heading, intro, title, notice, uses, installation, unpack,
    openUrl, closing, coverage, companyUse, downloadStep, loginStep, same_outbound]

theorem render_performAll (operations : List Operation) {context : Context} {marker : Component}
    (provides : context.resolve OutboundLink.name = .ok marker) :
    ∃ nodes, (renderTracked context (performAll newCache operations).1).1 = .ok nodes ∧
      treeOf nodes = tree marker := by
  have sound := sound_performAll operations
  obtain ⟨made, after, ran, grows, complete⟩ := render_eq_layout sound provides
  exact ⟨_, congrArg Prod.fst ran, treeOf_layout grows.sound complete marker made⟩

/-- Two renderings, each after operations of its own and in a context of its own, give the trees that
the builders give when they are called afresh.  The contexts matter by their markers only, and the trees
are equal exactly when the markers are the same object. -/
theorem tree_determined_by_marker (operations operations' : List Operation)
    (context context' : Context) (marker marker' : Component)
    (provides : context.resolve OutboundLink.name = .ok marker)
    (provides' : context'.resolve OutboundLink.name = .ok marker') :
    ∃ nodes nodes',
      (renderTracked context (performAll newCache operations).1).1 = .ok nodes ∧
      (renderTracked context' (performAll newCache operations').1).1 = .ok nodes' ∧
      (∀ calls, renderAfresh calls marker = .ok (treeOf nodes)) ∧
      (∀ calls, renderAfresh calls marker' = .ok (treeOf nodes')) ∧
      (marker = marker' → treeOf nodes = treeOf nodes') ∧
      ((treeOf nodes).same (treeOf nodes') = true ↔ marker.identity = marker'.identity) := by
  obtain ⟨nodes, rendered, treeEq⟩ := render_performAll operations provides
  obtain ⟨nodes', rendered', treeEq'⟩ := render_performAll operations' provides'
  refine ⟨nodes, nodes', rendered, rendered', ?_, ?_, ?_, ?_⟩
  · intro calls
    rw [renderAfresh_eq, treeEq]
  · intro calls
    rw [renderAfresh_eq, treeEq']
  · rintro rfl
    rw [treeEq, treeEq']
  · rw [treeEq, treeEq', same_tree]
    exact beq_iff_eq

/-- A component of another name takes the place of the marker, and the trees differ. -/
theorem tree_determined_by_marker_relabelled :
    let operations : List Operation := [.get "closing", .render .empty, .get "badge", .warm]
    let marker := OutboundLink.component 1 ⟨OutboundLink.defaultLabel⟩
    let badge : Component := ⟨2, "Badge", .text "!"⟩
    let context := Context.standard 1 OutboundLink.defaultLabel
    let context' := (context.register badge none).register badge (some OutboundLink.name)
    context.resolve OutboundLink.name = .ok marker ∧
    context'.resolve OutboundLink.name = .ok badge ∧
    ∃ nodes nodes',
      (renderTracked context (performAll newCache operations).1).1 = .ok nodes ∧
      (renderTracked context' (performAll newCache []).1).1 = .ok nodes' ∧
      ¬ (treeOf nodes).same (treeOf nodes') = true := by
  intro operations marker badge context context'
  have provides : context.resolve OutboundLink.name = .ok marker := rfl
  have provides' : context'.resolve OutboundLink.name = .ok badge := rfl
  obtain ⟨nodes, nodes', rendered, rendered', _, _, _, same⟩ :=
    tree_determined_by_marker operations [] context context' marker badge provides provides'
  refine ⟨provides, provides', nodes, nodes', rendered, rendered', fun equal => ?_⟩
  have identities : (1 : Nat) = 2 := same.1 equal
  exact absurd identities (by decide)

end DocPages.Frontend
