import DocPages.Markup
import DocPages.Proofs.Text.Cut
import DocPages.Proofs.Text.References
/-! # Tokens of markup

Markup is scanned from left to right: a bracket opens a tag that ends at the next closing bracket, and
what stands between tags are characters, with references read.  The scanner finds in the markup of a
legible tree exactly the tokens of that tree (`scan_write`), whatever texts and attribute values it
holds. -/
set_option autoImplicit false
namespace DocPages.Markup

open Text (upTo beyond)

/-- A nonempty name without blanks and without the characters that give a tag its structure. -/
def IsName (s : String) : Prop :=
  s.toList ≠ [] ∧ ∀ c ∈ s.toList, Text.isBlank c = false ∧ c ∉ ['<', '>', '/', '=', '"']

instance (s : String) : Decidable (IsName s) := inferInstanceAs (Decidable (_ ∧ _))

mutual
/-- Trees of texts, elements, fragments and components in which every name is a name. -/
def Legible : Node → Prop
  | .text _ => True
  | .element tag attributes children =>
    IsName tag ∧ (∀ a ∈ attributes, IsName a.1) ∧ LegibleAll children
  | .fragment children => LegibleAll children
  | .component _ _ body => Legible body
  | .static _ _ => False
  | .foreign _ => False

def LegibleAll : List Node → Prop
  | [] => True
  | n :: ns => Legible n ∧ LegibleAll ns
end

/-- The attributes that have a value, in order and with repetitions. -/
def shown (attributes : Attributes) : List (String × String) :=
  attributes.filterMap fun a => a.2.map fun value => (a.1, value)

inductive Token
  | char (c : Char)
  | opening (tag : String) (attributes : List (String × String))
  | closing (tag : String)

mutual
def tokens : Node → List Token
  | .text s => s.toList.map .char
  | .element tag attributes children =>
    if isVoid tag then [.opening tag (shown attributes)]
    else .opening tag (shown attributes) :: tokensAll children ++ [.closing tag]
  | .fragment children => tokensAll children
  | .component _ _ body => tokens body
  | .static _ _ => []
  | .foreign _ => []

def tokensAll : List Node → List Token
  | [] => []
  | n :: ns => tokens n ++ tokensAll ns
end

/-! ## The scanner -/

def readAttributes : List Char → Option (List (String × String))
  | [] => some []
  | ' ' :: cs => do
    let rest ← readAttributes (beyond '"' (beyond '"' cs))
    let value := Text.References.read (upTo '"' (beyond '"' cs))
    return (String.ofList (upTo '=' cs), String.ofList value) :: rest
  | _ :: _ => none
  termination_by cs => cs.length
  decreasing_by
    have first := Text.length_beyond_le '"' cs
    have second := Text.length_beyond_le '"' (beyond '"' cs)
    simp only [List.length_cons]
    omega

def readTag : List Char → Option Token
  | '/' :: name => some (.closing (String.ofList name))
  | cs => do
    let attributes ← readAttributes (cs.dropWhile (· != ' '))
    return .opening (String.ofList (upTo ' ' cs)) attributes

def scan : List Char → Option (List Token)
  | [] => some []
  | '<' :: cs =>
    if '>' ∈ cs then do
      let tag ← readTag (upTo '>' cs)
      let rest ← scan (beyond '>' cs)
      return tag :: rest
    else none
  | c :: cs => do
    let rest ← scan (cs.dropWhile (· != '<'))
    return (Text.References.read (c :: upTo '<' cs)).map .char ++ rest
  termination_by cs => cs.length
  decreasing_by
    · have shorter := Text.length_beyond_le '>' cs
      simp only [List.length_cons]
      omega
    · have shorter := (List.dropWhile_sublist (l := cs) (· != '<')).length_le
      simp only [List.length_cons]
      omega

/-! ## Tags -/

theorem IsName.notMem {s : String} (h : IsName s) {d : Char}
    (hd : Text.isBlank d = true ∨ d ∈ ['<', '>', '/', '=', '"']) : d ∉ s.toList := by
  intro hm
  obtain ⟨blank, special⟩ := h.2 d hm
  rcases hd with hd | hd
  · rw [blank] at hd
    exact Bool.false_ne_true hd
  · exact special hd

theorem writeAttributes_cons_some (name value : String) (rest : Attributes) :
    writeAttributes ((name, some value) :: rest) =
      ' ' :: (name.toList ++ '=' :: '"' :: (Text.References.attributeValue.write value
        ++ '"' :: writeAttributes rest)) := by
  simp [writeAttributes]

theorem readAttributes_writeAttributes {attributes : Attributes}
    (names : ∀ a ∈ attributes, IsName a.1) :
    readAttributes (writeAttributes attributes) = some (shown attributes) := by
  induction attributes with
  | nil => simp [writeAttributes, readAttributes, shown]
  | cons a rest ih =>
    obtain ⟨name, value⟩ := a
    have ih := ih fun b hb => names b (List.mem_cons_of_mem _ hb)
    cases value with
    | none => simpa [writeAttributes, shown] using ih
    | some value =>
      have isName : IsName name := names (name, some value) List.mem_cons_self
      have noEquals : '=' ∉ name.toList := isName.notMem (Or.inr (by simp))
      have noQuote : '"' ∉ name.toList ++ ['='] := by
        rw [List.mem_append, not_or]
        exact ⟨isName.notMem (Or.inr (by simp)), by simp⟩
      have valueQuote : '"' ∉ Text.References.attributeValue.write value :=
        Text.References.notMem_write (fun c hc => (Text.References.mem_attributeValue hc).2.2 rfl) value
      have afterName (ys : List Char) : beyond '"' (name.toList ++ '=' :: '"' :: ys) = ys := by
        have cut := Text.beyond_append noQuote ys
        rwa [List.append_assoc] at cut
      rw [writeAttributes_cons_some, readAttributes]
      rw [afterName, Text.upTo_append noEquals, Text.upTo_append valueQuote,
        Text.beyond_append valueQuote, ih, Text.References.undone_attributeValue.read_write]
      simp [shown]

theorem writeAttributes_eq_nil_or_cons (attributes : Attributes) :
    writeAttributes attributes = [] ∨ ∃ cs, writeAttributes attributes = ' ' :: cs := by
  induction attributes with
  | nil => exact Or.inl rfl
  | cons a rest ih =>
    obtain ⟨name, value⟩ := a
    cases value with
    | none => simpa [writeAttributes] using ih
    | some value => exact Or.inr ⟨_, writeAttributes_cons_some name value rest⟩

theorem dropWhile_writeAttributes (attributes : Attributes) :
    (writeAttributes attributes).dropWhile (· != ' ') = writeAttributes attributes := by
  rcases writeAttributes_eq_nil_or_cons attributes with empty | ⟨cs, blank⟩
  · rw [empty]
    rfl
  · rw [blank]
    rfl

theorem upTo_writeAttributes (attributes : Attributes) :
    upTo ' ' (writeAttributes attributes) = [] := by
  rcases writeAttributes_eq_nil_or_cons attributes with empty | ⟨cs, blank⟩
  · rw [empty]
    rfl
  · rw [blank]
    rfl

theorem notMem_writeAttributes {d : Char} {attributes : Attributes} (plain : d ∉ [' ', '=', '"'])
    (values : ∀ c, d ∉ Text.References.attributeValue c) (names : ∀ a ∈ attributes, d ∉ a.1.toList) :
    d ∉ writeAttributes attributes := by
  induction attributes with
  | nil => simp [writeAttributes]
  | cons a rest ih =>
    obtain ⟨name, value⟩ := a
    have ih := ih fun b hb => names b (List.mem_cons_of_mem _ hb)
    cases value with
    | none => simpa [writeAttributes] using ih
    | some value =>
      have inName : d ∉ name.toList := names (name, some value) List.mem_cons_self
      have inValue : d ∉ Text.References.attributeValue.write value :=
        Text.References.notMem_write values value
      simp only [List.mem_cons, List.not_mem_nil, or_false, not_or] at plain
      simp [writeAttributes_cons_some, plain, inName, inValue, ih]

theorem gt_notMem_writeAttributes {attributes : Attributes}
    (names : ∀ a ∈ attributes, IsName a.1) : '>' ∉ writeAttributes attributes :=
  notMem_writeAttributes (by simp) (fun _ mem => (Text.References.mem_attributeValue mem).2.1 rfl)
    fun a mem => (names a mem).notMem (Or.inr (by simp))

theorem readTag_opening {tag : String} {attributes : Attributes} (name : IsName tag)
    (names : ∀ a ∈ attributes, IsName a.1) :
    readTag (tag.toList ++ writeAttributes attributes) = some (.opening tag (shown attributes)) := by
  have noBlank : ' ' ∉ tag.toList := name.notMem (Or.inl rfl)
  have noSlash : '/' ∉ tag.toList := name.notMem (Or.inr (by simp))
  have dropped : (tag.toList ++ writeAttributes attributes).dropWhile (· != ' ') =
      writeAttributes attributes := by
    rw [List.dropWhile_append_of_pos (Text.ne_of_notMem noBlank), dropWhile_writeAttributes]
  have kept : upTo ' ' (tag.toList ++ writeAttributes attributes) = tag.toList := by
    rw [upTo, List.takeWhile_append_of_pos (Text.ne_of_notMem noBlank), ← upTo,
      upTo_writeAttributes, List.append_nil]
  unfold readTag
  split
  next rest first =>
    cases chars : tag.toList with
    | nil => exact absurd chars name.1
    | cons c cs =>
      rw [chars, List.cons_append, List.cons.injEq] at first
      rw [chars, first.1] at noSlash
      exact absurd List.mem_cons_self noSlash
  next =>
    rw [dropped, kept, readAttributes_writeAttributes names]
    simp

theorem scan_tag {inside : List Char} (h : '>' ∉ inside) {tag : Token}
    (reads : readTag inside = some tag) (rest : List Char) :
    scan ('<' :: inside ++ '>' :: rest) = (scan rest).map (tag :: ·) := by
  rw [List.cons_append, scan, if_pos (by simp), Text.upTo_append h, Text.beyond_append h, reads]
  cases scan rest <;> rfl

theorem scan_startTag {tag : String} {attributes : Attributes} (name : IsName tag)
    (names : ∀ a ∈ attributes, IsName a.1) (rest : List Char) :
    scan (startTag tag attributes ++ rest) =
      (scan rest).map (.opening tag (shown attributes) :: ·) := by
  have noBracket : '>' ∉ tag.toList ++ writeAttributes attributes := by
    rw [List.mem_append, not_or]
    exact ⟨name.notMem (Or.inr (by simp)), gt_notMem_writeAttributes names⟩
  rw [← scan_tag noBracket (readTag_opening name names) rest]
  simp [startTag]

theorem scan_endTag {tag : String} (name : IsName tag) (rest : List Char) :
    scan (endTag tag ++ rest) = (scan rest).map (.closing tag :: ·) := by
  have noBracket : '>' ∉ '/' :: tag.toList := by
    rw [List.mem_cons, not_or]
    exact ⟨by simp, name.notMem (Or.inr (by simp))⟩
  have reads : readTag ('/' :: tag.toList) = some (.closing tag) := by simp [readTag]
  rw [← scan_tag noBracket reads rest]
  simp [endTag]

/-! ## Texts -/

theorem scan_eq (cs : List Char) :
    scan cs = (scan (cs.dropWhile (· != '<'))).map
      ((Text.References.read (upTo '<' cs)).map Token.char ++ ·) := by
  cases cs with
  | nil => simp [scan, upTo, Text.References.read]
  | cons c cs =>
    by_cases h : c = '<'
    · subst h
      simp [upTo, Text.References.read]
    · rw [scan]
      · have kept : upTo '<' (c :: cs) = c :: upTo '<' cs := by simp [upTo, h]
        have dropped : (c :: cs).dropWhile (· != '<') = cs.dropWhile (· != '<') := by simp [h]
        rw [kept, dropped]
        cases scan (cs.dropWhile (· != '<')) <;> rfl
      · exact h

theorem scan_text (s : String) (rest : List Char) :
    scan (Text.References.text.write s ++ rest) = (scan rest).map (s.toList.map .char ++ ·) := by
  have noBracket : '<' ∉ Text.References.text.write s :=
    Text.References.notMem_write (fun c hc => (Text.References.mem_text hc).1 rfl) s
  have kept : upTo '<' (Text.References.text.write s ++ rest) =
      Text.References.text.write s ++ upTo '<' rest :=
    List.takeWhile_append_of_pos (Text.ne_of_notMem noBracket)
  rw [scan_eq, kept, List.dropWhile_append_of_pos (Text.ne_of_notMem noBracket),
    Text.References.undone_text.read_append, scan_eq rest, Option.map_map]
  congr 1
  funext ts
  simp

/-! ## Trees -/

mutual
theorem scan_write : ∀ n : Node, Legible n →
    ∃ cs, write n = .ok cs ∧ ∀ rest, scan (cs ++ rest) = (scan rest).map (tokens n ++ ·)
  | .text s, _ => ⟨_, rfl, scan_text s⟩
  | .element tag attributes children, h => by
    obtain ⟨name, names, legible⟩ := h
    by_cases void : isVoid tag
    · refine ⟨startTag tag attributes, write_of_void void, fun rest => ?_⟩
      rw [scan_startTag name names]
      simp [tokens, void]
    · obtain ⟨inner, written, scanned⟩ := scan_writeAll children legible
      refine ⟨startTag tag attributes ++ inner ++ endTag tag, write_of_children void written,
        fun rest => ?_⟩
      rw [List.append_assoc, List.append_assoc, scan_startTag name names, scanned,
        scan_endTag name, Option.map_map, Option.map_map]
      congr 1
      funext ts
      simp [tokens, void]
  | .fragment children, h => by
    obtain ⟨cs, written, scanned⟩ := scan_writeAll children h
    exact ⟨cs, by rw [write, written], scanned⟩
  | .component _ _ body, h => by
    obtain ⟨cs, written, scanned⟩ := scan_write body h
    exact ⟨cs, by rw [write, written], scanned⟩
  | .static _ _, h => absurd h id
  | .foreign _, h => absurd h id

theorem scan_writeAll : ∀ ns : List Node, LegibleAll ns →
    ∃ cs, writeAll ns = .ok cs ∧ ∀ rest, scan (cs ++ rest) = (scan rest).map (tokensAll ns ++ ·)
  | [], _ => ⟨[], rfl, fun rest => by simp [tokensAll]⟩
  | n :: ns, h => by
    obtain ⟨first, firstWritten, firstScanned⟩ := scan_write n h.1
    obtain ⟨rest, restWritten, restScanned⟩ := scan_writeAll ns h.2
    refine ⟨first ++ rest, writeAll_of_ok firstWritten restWritten, fun after => ?_⟩
    rw [List.append_assoc, firstScanned, restScanned, Option.map_map]
    congr 1
    funext ts
    simp [tokensAll]
end

end DocPages.Markup
