import DocPages.Proofs.Markup.Token
/-! # Traversals read off the markup

The text of a tree and the list of its elements stand in its markup for a reader who knows nothing of
the tree.  Deleting the tags and reading the references that are left gives the text
(`textContent_of_markup`).  The tags themselves are well nested, and the start tags among them are those
of the elements in document order (`elements_of_markup`). -/
set_option autoImplicit false
namespace DocPages.Markup

open Text (beyond)
open Node (textContent textContents elements elementsOf)

mutual
/-- Trees of texts, elements and fragments in which all tags and attribute names are of the given kind
and void elements have no children. -/
def Authored (Name : String → Prop) : Node → Prop
  | .text _ => True
  | .element tag attributes children =>
    Name tag ∧ (∀ a ∈ attributes, Name a.1) ∧ (isVoid tag = true → children = []) ∧
      AuthoredAll Name children
  | .fragment children => AuthoredAll Name children
  | .static _ _ => False
  | .component _ _ _ => False
  | .foreign _ => False

def AuthoredAll (Name : String → Prop) : List Node → Prop
  | [] => True
  | n :: ns => Authored Name n ∧ AuthoredAll Name ns
end

/-! ## The text between tags -/

def Unbracketed (s : String) : Prop := '<' ∉ s.toList ∧ '>' ∉ s.toList

/-- Deletes every stretch from an opening bracket to the next closing one.  A bracket that is never
closed stays. -/
def withoutTags : List Char → List Char
  | [] => []
  | '<' :: cs => if '>' ∈ cs then withoutTags (beyond '>' cs) else '<' :: cs
  | c :: cs => c :: withoutTags cs
  termination_by cs => cs.length
  decreasing_by
    · have shorter := Text.length_beyond_le '>' cs
      simp only [List.length_cons]
      omega
    · simp only [List.length_cons]
      omega

/-- Reads the references that texts are written with, in one pass from left to right. -/
def readText : List Char → List Char
  | [] => []
  | '&' :: 'a' :: 'm' :: 'p' :: ';' :: cs => '&' :: readText cs
  | '&' :: 'l' :: 't' :: ';' :: cs => '<' :: readText cs
  | '&' :: 'g' :: 't' :: ';' :: cs => '>' :: readText cs
  | c :: cs => c :: readText cs

theorem readText_reference (c : Char) (rest : List Char) :
    readText (Text.References.text c ++ rest) = c :: readText rest := by
  unfold Text.References.text
  split
  · rfl
  · rfl
  · rfl
  next amp _ _ =>
    rw [List.singleton_append, readText.eq_def]
    split <;> simp_all

theorem readText_write (s : String) : readText (Text.References.text.write s) = s.toList := by
  unfold Text.References.write
  induction s.toList with
  | nil => rfl
  | cons c cs ih => rw [List.flatMap_cons, readText_reference, ih]

theorem withoutTags_append {cs : List Char} (noTag : '<' ∉ cs) (rest : List Char) :
    withoutTags (cs ++ rest) = cs ++ withoutTags rest := by
  induction cs with
  | nil => rfl
  | cons c cs ih =>
    rw [List.mem_cons, not_or] at noTag
    rw [List.cons_append, withoutTags, ih noTag.2, List.cons_append]
    exact Ne.symm noTag.1

theorem withoutTags_tag {inside : List Char} (noBracket : '>' ∉ inside) (rest : List Char) :
    withoutTags ('<' :: inside ++ '>' :: rest) = withoutTags rest := by
  rw [List.cons_append, withoutTags, if_pos (by simp), Text.beyond_append noBracket]

theorem withoutTags_text (s : String) (rest : List Char) :
    withoutTags (Text.References.text.write s ++ rest) =
      Text.References.text.write s ++ withoutTags rest :=
  withoutTags_append
    (Text.References.notMem_write (fun _ mem => (Text.References.mem_text mem).1 rfl) s) rest

theorem withoutTags_startTag {tag : String} {attributes : Attributes} (name : Unbracketed tag)
    (names : ∀ a ∈ attributes, Unbracketed a.1) (rest : List Char) :
    withoutTags (startTag tag attributes ++ rest) = withoutTags rest := by
  have noBracket : '>' ∉ tag.toList ++ writeAttributes attributes := by
    rw [List.mem_append, not_or]
    refine ⟨name.2, notMem_writeAttributes (by simp) ?_ fun a mem => (names a mem).2⟩
    exact fun _ mem => (Text.References.mem_attributeValue mem).2.1 rfl
  rw [← withoutTags_tag noBracket rest]
  simp [startTag]

theorem withoutTags_endTag {tag : String} (name : Unbracketed tag) (rest : List Char) :
    withoutTags (endTag tag ++ rest) = withoutTags rest := by
  have noBracket : '>' ∉ '/' :: tag.toList := by
    rw [List.mem_cons, not_or]
    exact ⟨by simp, name.2⟩
  rw [← withoutTags_tag noBracket rest]
  simp [endTag]

mutual
/-- Whatever follows the markup of a tree, deleting the tags leaves its text as it was written. -/
theorem withoutTags_write : ∀ n : Node, Authored Unbracketed n → ∃ cs, write n = .ok cs ∧
    ∀ rest, withoutTags (cs ++ rest) =
      Text.References.text.write (textContent n) ++ withoutTags rest
  | .text s, _ => ⟨_, rfl, withoutTags_text s⟩
  | .element tag attributes children, h => by
    obtain ⟨name, names, empty, authored⟩ := h
    by_cases void : isVoid tag
    · obtain rfl := empty void
      refine ⟨startTag tag attributes, write_of_void void, fun rest => ?_⟩
      rw [withoutTags_startTag name names]
      rfl
    · obtain ⟨inner, written, deleted⟩ := withoutTags_writeAll children authored
      refine ⟨startTag tag attributes ++ inner ++ endTag tag, write_of_children void written,
        fun rest => ?_⟩
      rw [List.append_assoc, List.append_assoc, withoutTags_startTag name names, deleted,
        withoutTags_endTag name]
      rfl
  | .fragment children, h => by
    obtain ⟨cs, written, deleted⟩ := withoutTags_writeAll children h
    exact ⟨cs, by rw [write, written], deleted⟩
  | .static _ _, h => absurd h id
  | .component _ _ _, h => absurd h id
  | .foreign _, h => absurd h id

theorem withoutTags_writeAll : ∀ ns : List Node, AuthoredAll Unbracketed ns →
    ∃ cs, writeAll ns = .ok cs ∧ ∀ rest, withoutTags (cs ++ rest) =
      Text.References.text.write (textContents ns) ++ withoutTags rest
  | [], _ => ⟨[], rfl, fun rest => by simp [textContents, Text.References.write]⟩
  | n :: ns, h => by
    obtain ⟨first, firstWritten, firstDeleted⟩ := withoutTags_write n h.1
    obtain ⟨rest, restWritten, restDeleted⟩ := withoutTags_writeAll ns h.2
    refine ⟨first ++ rest, writeAll_of_ok firstWritten restWritten, fun after => ?_⟩
    rw [List.append_assoc, firstDeleted, restDeleted, textContents,
      Text.References.write_append, List.append_assoc]
end

/-- What is left of the markup of a tree without its tags, read as text, is the text of the tree. -/
theorem textContent_of_markup (n : Node) (authored : Authored Unbracketed n) :
    ∃ markup, render n = .ok markup ∧
      String.ofList (readText (withoutTags markup.toList)) = textContent n := by
  obtain ⟨cs, written, deleted⟩ := withoutTags_write n authored
  have left : withoutTags cs = Text.References.text.write (textContent n) := by
    have alone := deleted []
    rwa [List.append_nil, withoutTags, List.append_nil] at alone
  refine ⟨String.ofList cs, render_of_write written, ?_⟩
  rw [String.toList_ofList, left, readText_write, String.ofList_toList]

/-- A text in two pieces that looks like a tag and a reference, beside values with brackets and
quotes. -/
theorem textContent_of_markup_lookalike :
    let n : Node := .element "p" [("title", some "a>b<\"c"), ("a\"=", some ">"), ("hidden", none)]
      [.text "1 &l", .fragment [.text "t; <br>", .element "br" [] []], .text "&amp;lt;"]
    Authored Unbracketed n ∧ ∃ markup, render n = .ok markup ∧
      String.ofList (readText (withoutTags markup.toList)) = "1 &lt; <br>&amp;lt;" := by
  intro n
  have authored : Authored Unbracketed n := by
    simp [n, Authored, AuthoredAll, Unbracketed, isVoid, voidTags]
  exact ⟨authored, textContent_of_markup n authored⟩

/-! ## The elements among the tags -/

/-- Every start tag of an element with an end tag is closed by its own end tag, and nothing else is
closed. -/
inductive WellNested : List Token → Prop
  | nil : WellNested []
  | char (c : Char) {after : List Token} : WellNested after → WellNested (.char c :: after)
  | void {tag : String} (attributes : List (String × String)) {after : List Token} :
    isVoid tag = true → WellNested after → WellNested (.opening tag attributes :: after)
  | element {tag : String} (attributes : List (String × String)) {inside after : List Token} :
    isVoid tag = false → WellNested inside → WellNested after →
      WellNested (.opening tag attributes :: inside ++ .closing tag :: after)

def Token.isTag : Token → Bool
  | .char _ => false
  | .opening _ _ => true
  | .closing _ => true

def Token.start? : Token → Option (String × List (String × String))
  | .opening tag attributes => some (tag, attributes)
  | .char _ => none
  | .closing _ => none

theorem wellNested_chars (cs : List Char) {after : List Token} (nested : WellNested after) :
    WellNested (cs.map .char ++ after) := by
  induction cs with
  | nil => exact nested
  | cons c cs ih => exact .char c ih

mutual
theorem wellNested_append : ∀ (n : Node) {after : List Token}, WellNested after →
    WellNested (tokens n ++ after)
  | .text s, _, nested => by
    rw [tokens]
    exact wellNested_chars s.toList nested
  | .element tag attributes children, after, nested => by
    rw [tokens]
    by_cases void : isVoid tag
    · rw [if_pos void]
      exact .void _ void nested
    · have inside := wellNested_appendAll children WellNested.nil
      rw [List.append_nil] at inside
      rw [if_neg void, List.append_assoc]
      exact .element _ (eq_false_of_ne_true void) inside nested
  | .fragment children, _, nested => wellNested_appendAll children nested
  | .component _ _ body, _, nested => wellNested_append body nested
  | .static _ _, _, nested => nested
  | .foreign _, _, nested => nested

theorem wellNested_appendAll : ∀ (ns : List Node) {after : List Token}, WellNested after →
    WellNested (tokensAll ns ++ after)
  | [], _, nested => nested
  | n :: ns, _, nested => by
    rw [tokensAll, List.append_assoc]
    exact wellNested_append n (wellNested_appendAll ns nested)
end

theorem wellNested_tokens (n : Node) : WellNested (tokens n) := by
  have nested := wellNested_append n WellNested.nil
  rwa [List.append_nil] at nested

def startOf (e : Element) : String × List (String × String) := (e.tag, shown e.attributes)

section Starts
variable {Name : String → Prop}

mutual
theorem starts_tokens : ∀ n : Node, Authored Name n →
    (tokens n).filterMap Token.start? = (elements n).map startOf
  | .text s, _ => by
    rw [tokens, List.filterMap_map]
    exact List.filterMap_eq_nil_iff.2 fun _ _ => rfl
  | .element tag attributes children, h => by
    obtain ⟨_, _, empty, authored⟩ := h
    rw [tokens, elements]
    by_cases void : isVoid tag
    · obtain rfl := empty void
      rw [if_pos void]
      rfl
    · rw [if_neg void, List.cons_append, List.filterMap_cons, List.filterMap_append,
        starts_tokensAll children authored]
      simp [Token.start?, startOf]
  | .fragment children, h => starts_tokensAll children h
  | .static _ _, h => absurd h id
  | .component _ _ _, h => absurd h id
  | .foreign _, h => absurd h id

theorem starts_tokensAll : ∀ ns : List Node, AuthoredAll Name ns →
    (tokensAll ns).filterMap Token.start? = (elementsOf ns).map startOf
  | [], _ => rfl
  | n :: ns, h => by
    rw [tokensAll, elementsOf, List.filterMap_append, List.map_append, starts_tokens n h.1,
      starts_tokensAll ns h.2]
end

end Starts

mutual
theorem Authored.legible : ∀ {n : Node}, Authored IsName n → Legible n
  | .text _, _ => trivial
  | .element _ _ _, h => ⟨h.1, h.2.1, h.2.2.2.legible⟩
  | .fragment _, h => AuthoredAll.legible h
  | .static _ _, h => absurd h id
  | .component _ _ _, h => absurd h id
  | .foreign _, h => absurd h id

theorem AuthoredAll.legible : ∀ {ns : List Node}, AuthoredAll IsName ns → LegibleAll ns
  | [], _ => trivial
  | _ :: _, h => ⟨h.1.legible, h.2.legible⟩
end

/-! ## Opening brackets -/

theorem count_startTag {tag : String} {attributes : Attributes} (name : IsName tag)
    (names : ∀ a ∈ attributes, IsName a.1) : (startTag tag attributes).count '<' = 1 := by
  have inTag : '<' ∉ tag.toList := name.notMem (Or.inr (by simp))
  have inAttributes : '<' ∉ writeAttributes attributes := by
    refine notMem_writeAttributes (by simp) ?_ fun a mem => (names a mem).notMem (Or.inr (by simp))
    exact fun _ mem => (Text.References.mem_attributeValue mem).1 rfl
  simp [startTag, List.count_eq_zero_of_not_mem, inTag, inAttributes]

theorem count_endTag {tag : String} (name : IsName tag) : (endTag tag).count '<' = 1 := by
  have inTag : '<' ∉ tag.toList := name.notMem (Or.inr (by simp))
  simp [endTag, List.count_eq_zero_of_not_mem, inTag]

theorem countP_chars (cs : List Char) : (cs.map Token.char).countP Token.isTag = 0 := by
  rw [List.countP_map]
  exact List.countP_eq_zero.2 fun _ _ => Bool.false_ne_true

mutual
theorem count_write : ∀ n : Node, Legible n →
    ∃ cs, write n = .ok cs ∧ cs.count '<' = (tokens n).countP Token.isTag
  | .text s, _ => by
    refine ⟨_, rfl, ?_⟩
    rw [tokens, countP_chars]
    refine List.count_eq_zero_of_not_mem (Text.References.notMem_write ?_ s)
    exact fun _ mem => (Text.References.mem_text mem).1 rfl
  | .element tag attributes children, h => by
    obtain ⟨name, names, legible⟩ := h
    rw [tokens]
    by_cases void : isVoid tag
    · refine ⟨startTag tag attributes, write_of_void void, ?_⟩
      rw [if_pos void, count_startTag name names]
      rfl
    · obtain ⟨inner, written, counted⟩ := count_writeAll children legible
      refine ⟨startTag tag attributes ++ inner ++ endTag tag, write_of_children void written, ?_⟩
      rw [if_neg void, List.count_append, List.count_append, count_startTag name names, counted,
        count_endTag name, List.countP_append, List.countP_cons_of_pos rfl,
        List.countP_cons_of_pos rfl, List.countP_nil]
      omega
  | .fragment children, h => by
    obtain ⟨cs, written, counted⟩ := count_writeAll children h
    exact ⟨cs, by rw [write, written], counted⟩
  | .component _ _ body, h => by
    obtain ⟨cs, written, counted⟩ := count_write body h
    exact ⟨cs, by rw [write, written], counted⟩
  | .static _ _, h => absurd h id
  | .foreign _, h => absurd h id

theorem count_writeAll : ∀ ns : List Node, LegibleAll ns →
    ∃ cs, writeAll ns = .ok cs ∧ cs.count '<' = (tokensAll ns).countP Token.isTag
  | [], _ => ⟨[], rfl, rfl⟩
  | n :: ns, h => by
    obtain ⟨first, firstWritten, firstCounted⟩ := count_write n h.1
    obtain ⟨rest, restWritten, restCounted⟩ := count_writeAll ns h.2
    refine ⟨first ++ rest, writeAll_of_ok firstWritten restWritten, ?_⟩
    rw [List.count_append, tokensAll, List.countP_append, firstCounted, restCounted]
end

/-- The tags of a tree's markup are well nested, each opening bracket opens one, and the start tags are
those of the elements of the tree in document order. -/
theorem elements_of_markup (n : Node) (authored : Authored IsName n) :
    ∃ markup ts, render n = .ok markup ∧ scan markup.toList = some ts ∧ WellNested ts ∧
      ts.filterMap Token.start? = (elements n).map startOf ∧
      markup.toList.count '<' = ts.countP Token.isTag := by
  obtain ⟨cs, written, scanned⟩ := scan_write n authored.legible
  have tokenised : scan cs = some (tokens n) := by
    simpa [scan] using scanned []
  obtain ⟨cs', again, counted⟩ := count_write n authored.legible
  obtain rfl : cs = cs' := Except.ok.inj (written.symm.trans again)
  refine ⟨String.ofList cs, tokens n, render_of_write written, ?_, wellNested_tokens n,
    starts_tokens n authored, ?_⟩
  · rw [String.toList_ofList, tokenised]
  · rw [String.toList_ofList, counted]

/-- Nested fragments with a void element among them, values that look like markup and an absent
attribute. -/
theorem elements_of_markup_lookalike :
    let n : Node := .fragment [.element "ul" [("title", some "<li x=\"1\">"), ("hidden", none)]
      [.fragment [.element "br" [("a", some "&quot;"), ("a", some "")] [], .text "</ul>"]],
      .element "ul" [] []]
    Authored IsName n ∧ ∃ markup ts, render n = .ok markup ∧ scan markup.toList = some ts ∧
      WellNested ts ∧ ts.filterMap Token.start? = [("ul", [("title", "<li x=\"1\">")]),
        ("br", [("a", "&quot;"), ("a", "")]), ("ul", [])] ∧
      markup.toList.count '<' = ts.countP Token.isTag := by
  intro n
  have authored : Authored IsName n := by
    simp [n, Authored, AuthoredAll, IsName, Text.isBlank, isVoid, voidTags]
  exact ⟨authored, elements_of_markup n authored⟩

end DocPages.Markup
