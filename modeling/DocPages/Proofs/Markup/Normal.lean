import DocPages.Proofs.Markup.Token
/-! # Normal form of trees

What markup tells of a tree: components stand for the trees that they render to, fragments for their
children, attributes without a value and the children of void elements are left out, and neighbouring
texts are one text.  Nothing else is lost: legible trees have the same markup exactly when they have
the same normal form (`render_eq_write_normal`), and the reader finds that form in the markup
(`read_render`).

The reader puts the scanned tokens together from right to left, so that every token stands in front of
contents that are complete already. -/
set_option autoImplicit false
namespace DocPages.Markup

inductive Content
  | text (content : String)
  | element (tag : String) (attributes : List (String × String)) (children : List Content)

def prependText (s : String) (after : List Content) : List Content :=
  if s = "" then after
  else match after with
    | .text t :: rest => .text (s ++ t) :: rest
    | _ => .text s :: after

def Content.prepend : Content → List Content → List Content
  | .text s, after => prependText s after
  | .element tag attributes children, after => .element tag attributes children :: after

/-- Drops empty texts and joins neighbouring ones. -/
def merged (cs : List Content) : List Content := cs.foldr Content.prepend []

mutual
def contents : Node → List Content
  | .text s => [.text s]
  | .element tag attributes children =>
    [.element tag (shown attributes) (if isVoid tag then [] else merged (contentsAll children))]
  | .fragment children => contentsAll children
  | .component _ _ body => contents body
  | .static _ _ => []
  | .foreign _ => []

def contentsAll : List Node → List Content
  | [] => []
  | n :: ns => contents n ++ contentsAll ns
end

def normal (n : Node) : List Content := merged (contents n)

theorem prependText_empty (after : List Content) : prependText "" after = after := rfl

theorem prependText_append (s t : String) (after : List Content) :
    prependText (s ++ t) after = prependText s (prependText t after) := by
  by_cases hs : s = ""
  · subst hs
    rw [String.empty_append, prependText_empty]
  by_cases ht : t = ""
  · subst ht
    rw [String.append_empty, prependText_empty]
  have hst : s ++ t ≠ "" := fun e => hs (String.append_eq_empty_iff.1 e).1
  cases after with
  | nil => simp [prependText, hs, ht, hst]
  | cons c rest =>
    cases c with
    | text u => simp [prependText, hs, ht, hst, String.append_assoc]
    | element tag attributes children => simp [prependText, hs, ht, hst]

/-! ## The markup of a normal form -/

def present (attributes : List (String × String)) : Attributes :=
  attributes.map fun a => (a.1, some a.2)

mutual
def Content.write : Content → List Char
  | .text s => Text.References.text.write s
  | .element tag attributes children =>
    if isVoid tag then startTag tag (present attributes)
    else startTag tag (present attributes) ++ writeContents children ++ endTag tag

def writeContents : List Content → List Char
  | [] => []
  | c :: cs => c.write ++ writeContents cs
end

theorem writeAttributes_present_shown (attributes : Attributes) :
    writeAttributes (present (shown attributes)) = writeAttributes attributes := by
  induction attributes with
  | nil => rfl
  | cons a rest ih =>
    obtain ⟨name, value⟩ := a
    cases value with
    | none => simpa [shown, writeAttributes] using ih
    | some value =>
      have head : present (shown ((name, some value) :: rest)) =
          (name, some value) :: present (shown rest) := by simp [shown, present]
      rw [head, writeAttributes_cons_some, writeAttributes_cons_some, ih]

theorem writeContents_append (cs ds : List Content) :
    writeContents (cs ++ ds) = writeContents cs ++ writeContents ds := by
  induction cs with
  | nil => rfl
  | cons c cs ih => simp [writeContents, ih]

theorem writeContents_prepend (c : Content) (after : List Content) :
    writeContents (c.prepend after) = c.write ++ writeContents after := by
  cases c with
  | element tag attributes children => rfl
  | text s =>
    rw [Content.prepend]
    by_cases hs : s = ""
    · subst hs
      simp [prependText_empty, Content.write, Text.References.write]
    · cases after with
      | nil => simp [prependText, hs, writeContents]
      | cons d rest =>
        cases d with
        | text t =>
          simp [prependText, hs, writeContents, Content.write, Text.References.write_append]
        | element tag attributes children => simp [prependText, hs, writeContents]

theorem writeContents_merged (cs : List Content) : writeContents (merged cs) = writeContents cs := by
  induction cs with
  | nil => rfl
  | cons c cs ih =>
    rw [merged, List.foldr_cons, writeContents_prepend, ← merged, ih, writeContents]

mutual
theorem write_eq_writeContents : ∀ n : Node, Legible n →
    write n = .ok (writeContents (contents n))
  | .text s, _ => by simp [write, contents, writeContents, Content.write]
  | .element tag attributes children, h => by
    obtain ⟨_, _, legible⟩ := h
    have start : startTag tag (present (shown attributes)) = startTag tag attributes := by
      rw [startTag, writeAttributes_present_shown, startTag]
    by_cases void : isVoid tag
    · rw [write_of_void void]
      simp [contents, writeContents, Content.write, void, start]
    · rw [write_of_children void (writeAll_eq_writeContents children legible)]
      simp [contents, writeContents, Content.write, void, start, writeContents_merged]
  | .fragment children, h => by
    rw [write, writeAll_eq_writeContents children h, contents]
  | .component _ _ body, h => by
    rw [write, write_eq_writeContents body h, contents]
  | .static _ _, h => absurd h id
  | .foreign _, h => absurd h id

theorem writeAll_eq_writeContents : ∀ ns : List Node, LegibleAll ns →
    writeAll ns = .ok (writeContents (contentsAll ns))
  | [], _ => rfl
  | n :: ns, h => by
    rw [writeAll_of_ok (write_eq_writeContents n h.1) (writeAll_eq_writeContents ns h.2),
      contentsAll, writeContents_append]
end

theorem render_eq_write_normal {n : Node} (h : Legible n) :
    render n = .ok (String.ofList (writeContents (normal n))) := by
  rw [render_of_write (write_eq_writeContents n h), normal, writeContents_merged]

/-! ## The reader -/

/-- What stands behind a token: the contents inside the innermost open element, and for each element
around them its tag and the contents behind it. -/
structure Suffix where
  inside : List Content
  outside : List (String × List Content)

def Token.prepend : Token → Suffix → Option Suffix
  | .char c, s => some { s with inside := prependText (String.singleton c) s.inside }
  | .closing tag, s => some ⟨[], (tag, s.inside) :: s.outside⟩
  | .opening tag attributes, s =>
    if isVoid tag then some { s with inside := .element tag attributes [] :: s.inside }
    else match s.outside with
      | (closed, after) :: outside =>
        if closed = tag then some ⟨.element tag attributes s.inside :: after, outside⟩ else none
      | [] => none

def assemble (ts : List Token) : Option (List Content) := do
  let s ← ts.foldrM Token.prepend ⟨[], []⟩
  if s.outside.isEmpty then some s.inside else none

def read (markup : String) : Option (List Content) := do
  let ts ← scan markup.toList
  assemble ts

theorem foldrM_chars (cs : List Char) (s : Suffix) :
    (cs.map Token.char).foldrM Token.prepend s =
      some { s with inside := prependText (String.ofList cs) s.inside } := by
  induction cs with
  | nil => rfl
  | cons c cs ih =>
    have split : String.ofList (c :: cs) = String.singleton c ++ String.ofList cs := by
      apply String.toList_inj.1
      simp
    rw [List.map_cons, List.foldrM_cons, ih, split, prependText_append]
    rfl

mutual
/-- Whatever stands behind the tokens of a tree, they put the contents of the tree in front of it. -/
theorem foldrM_tokens : ∀ (n : Node) (s : Suffix), (tokens n).foldrM Token.prepend s =
    some { s with inside := (contents n).foldr Content.prepend s.inside }
  | .text t, s => by
    rw [tokens, foldrM_chars, String.ofList_toList]
    rfl
  | .element tag attributes children, s => by
    by_cases void : isVoid tag
    · simp [tokens, contents, void, Token.prepend, Content.prepend]
    · have inner := foldrM_tokensAll children ⟨[], (tag, s.inside) :: s.outside⟩
      simp only [tokens, void, List.foldrM_append, List.foldrM_cons, List.foldrM_nil,
        List.cons_append, Bool.false_eq_true, if_false]
      simp only [Token.prepend, pure, bind, Option.bind, inner, void, if_true,
        Bool.false_eq_true, if_false]
      simp [contents, void, Content.prepend, merged]
  | .fragment children, s => foldrM_tokensAll children s
  | .component _ _ body, s => foldrM_tokens body s
  | .static _ _, _ => rfl
  | .foreign _, _ => rfl

theorem foldrM_tokensAll : ∀ (ns : List Node) (s : Suffix), (tokensAll ns).foldrM Token.prepend s =
    some { s with inside := (contentsAll ns).foldr Content.prepend s.inside }
  | [], _ => rfl
  | n :: ns, s => by
    rw [tokensAll, List.foldrM_append, foldrM_tokensAll ns s, contentsAll, List.foldr_append]
    exact foldrM_tokens n _
end

theorem assemble_tokens (n : Node) : assemble (tokens n) = some (normal n) := by
  simp [assemble, foldrM_tokens, normal, merged]

/-- The reader finds the normal form of a tree in its markup. -/
theorem read_render {n : Node} (h : Legible n) :
    ∃ markup, render n = .ok markup ∧ read markup = some (normal n) := by
  obtain ⟨cs, written, scanned⟩ := scan_write n h
  refine ⟨String.ofList cs, render_of_write written, ?_⟩
  have tokenised : scan cs = some (tokens n) := by
    simpa [scan] using scanned []
  rw [read, String.toList_ofList, tokenised]
  exact assemble_tokens n

/-- Markup keeps of a tree its normal form and nothing else. -/
theorem render_eq_iff_normal_eq (a b : Node) (ha : Legible a) (hb : Legible b) :
    (render a = render b ↔ normal a = normal b) ∧
      ∃ markup, render a = .ok markup ∧ read markup = some (normal a) := by
  refine ⟨⟨fun same => ?_, fun same => ?_⟩, read_render ha⟩
  · obtain ⟨markup, rendered, reads⟩ := read_render ha
    obtain ⟨markup', rendered', reads'⟩ := read_render hb
    rw [rendered, rendered', Except.ok.injEq] at same
    rw [same, reads', Option.some.injEq] at reads
    exact reads.symm
  · rw [render_eq_write_normal ha, render_eq_write_normal hb, same]

/-- A tree with a fragment, a component, an absent attribute and a child of a void element, and the
tree that is left when they are gone. -/
theorem render_eq_iff_normal_eq_spliced :
    let spliced : Node := .element "p" [("title", some "\"<&"), ("hidden", none)]
      [.text "1<", .fragment [.text "", .component 0 "Two" (.text "2&lt;")],
        .element "br" [] [.text "lost"]]
    let joined : Node := .element "p" [("title", some "\"<&")] [.text "1<2&lt;", .element "br" [] []]
    (Legible spliced ∧ Legible joined) ∧ (render spliced = render joined ↔
      normal spliced = normal joined) ∧
      ∃ markup, render spliced = .ok markup ∧ read markup = some (normal spliced) := by
  intro spliced joined
  have name : IsName "p" ∧ IsName "br" ∧ IsName "title" ∧ IsName "hidden" := by
    simp [IsName, Text.isBlank]
  have legibleSpliced : Legible spliced := by simp [spliced, Legible, LegibleAll, name]
  have legibleJoined : Legible joined := by simp [joined, Legible, LegibleAll, name]
  exact ⟨⟨legibleSpliced, legibleJoined⟩,
    render_eq_iff_normal_eq spliced joined legibleSpliced legibleJoined⟩

end DocPages.Markup
