import DocPages.Proofs.Frontend.Tree
import DocPages.Proofs.Markup.Gap
import DocPages.Proofs.Markup.Place
/-! # The marker in the markup of the frontend page

The page's markup is fixed but for what the marker renders to, which stands at the end of four links to
other sites.  The text of the page and the tags and attributes of its elements do not depend on the
marker at all (`marker_spliced`). -/
set_option autoImplicit false
namespace DocPages.Frontend

open Markup (Gapped gapped gappedAll Around AroundAll startTag endTag headOf)

def occurrences (word : List Char) : List Char → Nat
  | [] => 0
  | c :: cs => (if word.isPrefixOf (c :: cs) then 1 else 0) + occurrences word cs

def linkStart (href label : String) : List Char :=
  startTag "a" [("href", href), ("target", "_blank"), ("rel", "noopener noreferrer")]
    ++ Text.References.text.write label

/-- What stands between the two stretches is the end of a link's content, behind its label. -/
def AtLinkEnd (href label : String) (before after : List Char) : Prop :=
  linkStart href label <:+ before ∧ endTag "a" <+: after

instance (href label : String) (before after : List Char) :
    Decidable (AtLinkEnd href label before after) :=
  inferInstanceAs (Decidable (_ ∧ _))

def stretches : Gapped := gapped (tree default) .empty

/-! ## What does not depend on the marker -/

section Marker
variable (marker : Component)

theorem around_tree : Around marker.body (tree marker) := by
  simp only [tree, heading, intro, warningTitle, licenseNotice, commercialUses, installation, unpackStep,
    openStep, closing, coverage, companyUse, downloadStep, loginStep, outbound, Component.node, Around,
    AroundAll, and_true, -String.reduceAppend]

theorem gapped_tree : gapped (tree marker) .empty = stretches := rfl

theorem textContent_tree : (tree marker).textContent = (tree default).textContent := rfl

theorem heads_tree : (tree marker).elements.map headOf = (tree default).elements.map headOf := rfl

end Marker

/-! ## The stretches -/

set_option maxRecDepth 4000 in
theorem stretches_eq : ∃ s₁ s₂ s₃ s₄, stretches.behind = [s₁, s₂, s₃, s₄] ∧
    AtLinkEnd licenseUrl "license" stretches.first s₁ ∧
    AtLinkEnd licenseUrl "Read the full license" s₁ s₂ ∧
    AtLinkEnd downloadUrl "https://downloads.rport.io/frontend/stable" s₂ s₃ ∧
    AtLinkEnd apiAuthenticationUrl "API authentication" s₃ s₄ ∧
    (stretches.first :: stretches.behind).map (occurrences "target".toList) = [1, 1, 1, 1, 0] := by
  have closed : ∀ tag ∈ ["h1", "a", "p", "strong", "ul", "li", "code", "div"],
      Markup.isVoid tag = false := by decide
  simp only [List.forall_mem_cons] at closed
  refine ⟨_, _, _, _, rfl, ?_⟩
  unfold stretches tree heading intro warningTitle licenseNotice commercialUses installation unpackStep
    openStep closing coverage companyUse downloadStep loginStep outbound Component.node AtLinkEnd linkStart
    licenseUrl downloadUrl apiAuthenticationUrl installationHtml
  simp only [gapped, gappedAll, closed, Bool.false_eq_true, if_false, Gapped.prepend,
    Gapped.gapBefore, Gapped.empty, startTag, endTag, Markup.writeAttributes, Text.References.write,
    String.toList_append, -String.reduceAppend, -String.reduceToList]
  simp -index only [String.toList_ofList, -String.reduceToList]
  decide +kernel

theorem render_tree {s₁ s₂ s₃ s₄ : List Char} (cut : stretches.behind = [s₁, s₂, s₃, s₄])
    (marker : Component) : Markup.render (tree marker) = (Markup.render marker.body).map fun r =>
      String.ofList stretches.first ++ r ++ String.ofList s₁ ++ r ++ String.ofList s₂ ++ r
        ++ String.ofList s₃ ++ r ++ String.ofList s₄ := by
  have gaps : (gapped (tree marker) .empty).behind ≠ [] := by
    rw [gapped_tree, cut]
    exact List.cons_ne_nil _ _
  rw [Markup.render, Markup.write_eq_map_fill (around_tree marker) gaps, gapped_tree, Markup.render]
  cases Markup.write marker.body with
  | error e => rfl
  | ok inside =>
    simp only [Except.map, Gapped.fill, cut, List.flatMap_cons, List.flatMap_nil, List.append_nil,
      String.ofList_append, String.append_assoc]

/-! ## The page -/

/-- The page is these stretches of markup with the marker's own markup between them, and it has this
text and these tags and attributes. -/
structure Spliced (s₀ s₁ s₂ s₃ s₄ text : String) (heads : List (String × Attributes)) : Prop where
  /-- After any operations and for any marker, also one that cannot be rendered. -/
  page : ∀ operations context marker, context.resolve OutboundLink.name = .ok marker →
    ∃ nodes, (renderTracked context (performAll newCache operations).1).1 = .ok nodes ∧
      Markup.render (treeOf nodes) =
        (Markup.render marker.body).map (fun r => s₀ ++ r ++ s₁ ++ r ++ s₂ ++ r ++ s₃ ++ r ++ s₄) ∧
      (treeOf nodes).textContent = text ∧ (treeOf nodes).elements.map headOf = heads
  links : ∀ e ∈ [(s₀, s₁), (s₁, s₂), (s₂, s₃), (s₃, s₄)],
    ∃ href label, AtLinkEnd href label e.1.toList e.2.toList
  /-- The word stands once in the start tag of each link, and nowhere else. -/
  targets : [s₀, s₁, s₂, s₃, s₄].map (fun s => occurrences "target".toList s.toList) = [1, 1, 1, 1, 0]

theorem marker_spliced : ∃ s₀ s₁ s₂ s₃ s₄ text heads, Spliced s₀ s₁ s₂ s₃ s₄ text heads := by
  obtain ⟨s₁, s₂, s₃, s₄, cut, first, second, third, fourth, targets⟩ := stretches_eq
  refine ⟨String.ofList stretches.first, String.ofList s₁, String.ofList s₂, String.ofList s₃,
    String.ofList s₄, (tree default).textContent, (tree default).elements.map headOf, ?_⟩
  constructor
  case page =>
    intro operations context marker provides
    obtain ⟨nodes, rendered, same⟩ := render_performAll operations provides
    refine ⟨nodes, rendered, ?_, ?_, ?_⟩
    · rw [same, render_tree cut]
    · rw [same, textContent_tree]
    · rw [same, heads_tree]
  case links =>
    simp only [List.forall_mem_cons, String.toList_ofList]
    exact ⟨⟨_, _, first⟩, ⟨_, _, second⟩, ⟨_, _, third⟩, ⟨_, _, fourth⟩, fun e mem => by cases mem⟩
  case targets =>
    rw [cut] at targets
    simpa only [List.map_cons, List.map_nil, String.toList_ofList] using targets

end DocPages.Frontend
