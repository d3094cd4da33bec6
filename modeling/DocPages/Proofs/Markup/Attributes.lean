import DocPages.Proofs.Markup.Token
/-! # Attributes that are read and attributes that are shown

A start tag shows the attributes that have a value, one after the other (`startTag_eq`).  Reading an
attribute stops at the first of its name, whether it is shown or not, so a missing value hides the
later attributes of its name and the fallback.  Reading tells what the start tag shows exactly if there
is nothing to hide (`get_eq_shown_iff`). -/
set_option autoImplicit false
namespace DocPages.Markup

def attributeText (a : String × String) : List Char :=
  ' ' :: a.1.toList ++ '=' :: '"' :: Text.References.attributeValue.write a.2 ++ ['"']

theorem shown_cons_none (name : String) (rest : Attributes) :
    shown ((name, none) :: rest) = shown rest := rfl

theorem shown_cons_some (name value : String) (rest : Attributes) :
    shown ((name, some value) :: rest) = (name, value) :: shown rest := rfl

theorem writeAttributes_eq_flatMap (attributes : Attributes) :
    writeAttributes attributes = (shown attributes).flatMap attributeText := by
  induction attributes with
  | nil => rfl
  | cons a rest ih =>
    obtain ⟨name, value⟩ := a
    cases value with
    | none => rw [writeAttributes, shown_cons_none, ih]
    | some value =>
      rw [writeAttributes_cons_some, shown_cons_some, List.flatMap_cons, ih, attributeText]
      simp

theorem startTag_eq (tag : String) (attributes : Attributes) : startTag tag attributes =
    '<' :: tag.toList ++ (shown attributes).flatMap attributeText ++ ['>'] := by
  rw [startTag, writeAttributes_eq_flatMap]

theorem write_of_render {n : Node} {markup : String} (rendered : render n = .ok markup) :
    write n = .ok markup.toList := by
  rw [render] at rendered
  cases wrote : write n with
  | error e =>
    rw [wrote] at rendered
    cases rendered
  | ok cs =>
    rw [wrote] at rendered
    cases rendered
    rw [String.toList_ofList]

theorem startTag_prefix {tag : String} {attributes : Attributes} {children : List Node}
    {cs : List Char} (wrote : write (.element tag attributes children) = .ok cs) :
    startTag tag attributes <+: cs := by
  by_cases void : isVoid tag
  · rw [write_of_void void, Except.ok.injEq] at wrote
    exact wrote ▸ List.prefix_rfl
  · cases inner : writeAll children with
    | error e =>
      rw [write_of_children_error void inner] at wrote
      cases wrote
    | ok content =>
      rw [write_of_children void inner, Except.ok.injEq] at wrote
      rw [← wrote, List.append_assoc]
      exact List.prefix_append _ _

section Lookup
variable {attributes : Attributes} {name : String}

theorem lookup_shown_of_missing (missing : attributes.lookup name = none) :
    (shown attributes).lookup name = none := by
  rw [List.lookup_eq_none_iff] at missing ⊢
  intro a mem
  obtain ⟨a', mem', valued⟩ := List.mem_filterMap.1 mem
  obtain ⟨value, _, rfl⟩ := Option.map_eq_some_iff.1 valued
  exact missing a' mem'

theorem lookup_shown_of_value {value : String} (first : attributes.lookup name = some (some value)) :
    (shown attributes).lookup name = some value := by
  induction attributes with
  | nil => cases first
  | cons a rest ih =>
    obtain ⟨other, given⟩ := a
    rw [List.lookup_cons] at first
    cases same : name == other with
    | true =>
      rw [same] at first
      cases first
      rw [shown_cons_some, List.lookup_cons, same]
    | false =>
      rw [same] at first
      cases given with
      | none => exact ih first
      | some v =>
        rw [shown_cons_some, List.lookup_cons, same]
        exact ih first

theorem get_of_missing_value (hidden : attributes.lookup name = some none)
    (fallback : Option String) : attributes.get name fallback = none := by
  rw [Attributes.get, hidden, Option.getD_some]

theorem get_eq_shown (given : attributes.lookup name ≠ some none) (fallback : Option String) :
    attributes.get name fallback = ((shown attributes).lookup name).or fallback := by
  unfold Attributes.get
  cases first : attributes.lookup name with
  | none =>
    rw [lookup_shown_of_missing first]
    rfl
  | some found =>
    cases found with
    | none => exact absurd first given
    | some value =>
      rw [lookup_shown_of_value first]
      rfl

end Lookup

/-- A start tag shows the attributes that have a value.  Reading an attribute gives the value that is
shown first under its name, or the fallback where none is shown, exactly if nothing is hidden: where
the first attribute of the name has no value, no later one may have a value, and there may be no
fallback.  Classes are those that the start tag shows exactly if a missing value hides none. -/
theorem get_eq_shown_iff (attributes : Attributes) :
    (∀ tag children markup, render (.element tag attributes children) = .ok markup →
      '<' :: tag.toList ++ (shown attributes).flatMap attributeText ++ ['>'] <+: markup.toList) ∧
    (∀ name fallback, attributes.get name fallback = ((shown attributes).lookup name).or fallback ↔
      (attributes.lookup name = some none →
        (shown attributes).lookup name = none ∧ fallback = none)) ∧
    (attributes.classes = Text.words (((shown attributes).lookup "class").getD "") ↔
      (attributes.lookup "class" = some none →
        Text.words (((shown attributes).lookup "class").getD "") = [])) := by
  refine ⟨?start, ?value, ?classes⟩
  case start =>
    intro tag children markup rendered
    rw [← startTag_eq]
    exact startTag_prefix (write_of_render rendered)
  case value =>
    intro name fallback
    by_cases hidden : attributes.lookup name = some none
    · rw [get_of_missing_value hidden, eq_comm, Option.or_eq_none_iff]
      simp [hidden]
    · exact iff_of_true (get_eq_shown hidden fallback) fun first => absurd first hidden
  case classes =>
    by_cases hidden : attributes.lookup "class" = some none
    · have none : attributes.classes = [] := by
        rw [Attributes.classes, get_of_missing_value hidden]
        rfl
      rw [none, eq_comm]
      simp [hidden]
    · have shows := get_eq_shown hidden none
      rw [Option.or_none] at shows
      rw [Attributes.classes, shows]
      exact iff_of_true rfl fun first => absurd first hidden

/-- A name that is repeated after its value, and one that stands for nothing. -/
theorem get_eq_shown_iff_repeated :
    let attributes : Attributes := [("id", some "<"), ("lang", none), ("id", some "later")]
    render (.element "br" attributes []) = .ok "<br id=\"&lt;\" id=\"later\">" ∧
      '<' :: "br".toList ++ (shown attributes).flatMap attributeText ++ ['>'] <+:
        "<br id=\"&lt;\" id=\"later\">".toList ∧
      attributes.lookup "id" ≠ some none ∧
      attributes.get "id" (some "x") = ((shown attributes).lookup "id").or (some "x") ∧
      attributes.lookup "lang" = some none ∧
      attributes.get "lang" none = ((shown attributes).lookup "lang").or none := by
  intro attributes
  obtain ⟨start, value, _⟩ := get_eq_shown_iff attributes
  have rendered : render (.element "br" attributes []) = .ok "<br id=\"&lt;\" id=\"later\">" := by
    decide +kernel
  have given : attributes.lookup "id" ≠ some none := by decide +kernel
  have nothing : (shown attributes).lookup "lang" = none := by decide +kernel
  exact ⟨rendered, start _ _ _ rendered, given,
    (value "id" (some "x")).2 fun absent => absurd absent given, by decide +kernel,
    (value "lang" none).2 fun _ => ⟨nothing, rfl⟩⟩

/-- A missing value hides a later one of its name, and the fallback. -/
theorem get_hidden :
    let repeated : Attributes := [("class", none), ("class", some "a")]
    let absent : Attributes := [("class", none)]
    (render (.element "p" repeated []) = .ok "<p class=\"a\"></p>" ∧
      (shown repeated).lookup "class" = some "a" ∧
      repeated.get "class" (some "x") = none ∧ repeated.classes = [] ∧
      repeated.get "class" (some "x") ≠ ((shown repeated).lookup "class").or (some "x")) ∧
    render (.element "p" absent []) = .ok "<p></p>" ∧ (shown absent).lookup "class" = none ∧
      absent.get "class" (some "x") = none ∧
      absent.get "class" (some "x") ≠ ((shown absent).lookup "class").or (some "x") := by
  decide +kernel

end DocPages.Markup
