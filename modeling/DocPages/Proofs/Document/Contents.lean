import DocPages.Proofs.Build.Run
import DocPages.Proofs.Document.Unique
import DocPages.Proofs.Page.Outline
/-! # The table of contents of a document

Whatever stands in the holes of a document, no bracket of theirs is left in its text.  So the links of the
table of contents can be found by looking at what follows each opening bracket up to the main part, and
their targets are the slugs of the outline in document order (`tocTargets_write`).  The payload shows the
same slugs in the same order, and a forest that repeats a slug has neither (`first_repeat_refused`). -/
set_option autoImplicit false
namespace DocPages
namespace Document

def linkStart : List Char := "a class=\"toc-link\" href=\"#".toList

def mainStart : List Char := "main class=\"page\">".toList

def target? (cs : List Char) : Option String :=
  (linkStart.isPrefixOf? cs).map fun rest =>
    String.ofList (Text.References.read (Text.upTo '"' rest))

/-- The targets of the links to headings that stand before the main part of a document. -/
def tocTargets : List Char → List String
  | [] => []
  | c :: cs =>
    if c = '<' then
      if mainStart.isPrefixOf cs then [] else (target? cs).toList ++ tocTargets cs
    else tocTargets cs

/-- A text in which no bracket opens a link or the main part, whatever comes behind the text. -/
def isQuiet : List Char → Bool
  | [] => true
  | c :: cs =>
    (c != '<' ||
      4 ≤ cs.length && cs.take 4 != mainStart.take 4 && cs.take 2 != linkStart.take 2) && isQuiet cs

section Scan
variable {s : List Char} (t : List Char)

theorem tocTargets_cons_of_ne {c : Char} (other : c ≠ '<') (cs : List Char) :
    tocTargets (c :: cs) = tocTargets cs := by
  rw [tocTargets, if_neg other]

theorem tocTargets_append_of_notMem (none : '<' ∉ s) : tocTargets (s ++ t) = tocTargets t := by
  induction s with
  | nil => rfl
  | cons c cs ih =>
    rw [List.mem_cons, not_or] at none
    rw [List.cons_append, tocTargets_cons_of_ne (Ne.symm none.1), ih none.2]

theorem not_isPrefix_append {p : List Char} (n : Nat) (long : n ≤ p.length) (long' : n ≤ s.length)
    (differ : s.take n ≠ p.take n) : ¬ p <+: s ++ t := by
  rintro ⟨rest, same⟩
  exact Text.append_ne_append n long long' (Ne.symm differ) rest t same

theorem target?_eq_none {cs : List Char} (other : ¬ linkStart <+: cs) : target? cs = none := by
  rw [target?, Option.map_eq_none_iff]
  cases found : linkStart.isPrefixOf? cs with
  | none => rfl
  | some rest => exact absurd ⟨rest, List.append_eq_of_isPrefixOf?_eq_some found⟩ other

theorem tocTargets_append_of_quiet (quiet : isQuiet s = true) :
    tocTargets (s ++ t) = tocTargets t := by
  induction s with
  | nil => rfl
  | cons c cs ih =>
    rw [isQuiet, Bool.and_eq_true] at quiet
    obtain ⟨here, later⟩ := quiet
    by_cases bracket : c = '<'
    · subst bracket
      simp only [bne_self_eq_false, Bool.false_or, Bool.and_eq_true, decide_eq_true_eq,
        bne_iff_ne] at here
      obtain ⟨⟨long, notMain⟩, notLink⟩ := here
      have main := not_isPrefix_append t 4 (by decide) long notMain
      have link := not_isPrefix_append t 2 (by decide) (by omega) notLink
      rw [List.cons_append, tocTargets, if_pos rfl, if_neg (mt List.isPrefixOf_iff_prefix.1 main),
        target?_eq_none link, Option.toList_none, List.nil_append, ih later]
    · rw [List.cons_append, tocTargets_cons_of_ne bracket, ih later]

theorem notMem_hole (s : String) : '<' ∉ hole s := fun mem => (mem_hole mem).1 rfl

theorem tocTargets_hole (s : String) : tocTargets (hole s ++ t) = tocTargets t :=
  tocTargets_append_of_notMem t (notMem_hole s)

theorem target?_link {stop : List Char} (quote : stop.head? = some '"') (slug : String) :
    target? (linkStart ++ (hole slug ++ (stop ++ t))) = some slug := by
  obtain ⟨rest, rfl⟩ : ∃ rest, stop = '"' :: rest := List.head?_eq_some_iff.1 quote
  have found : linkStart.isPrefixOf? (linkStart ++ (hole slug ++ ('"' :: rest ++ t))) =
      some (hole slug ++ ('"' :: rest ++ t)) := List.isPrefixOf?_eq_some_iff_append_eq.2 rfl
  have inside : '"' ∉ hole slug := fun mem => (mem_hole mem).2.2 rfl
  rw [target?, found, Option.map_some, List.cons_append, Text.upTo_append inside, hole,
    Text.References.undone_hole.read_write, String.ofList_toList]

theorem tocTargets_link (before : List Char) {stop : List Char}
    (opens : s = before ++ '<' :: linkStart) (none : '<' ∉ before) (quote : stop.head? = some '"')
    (slug : String) :
    tocTargets (s ++ (hole slug ++ (stop ++ t))) = slug :: tocTargets (stop ++ t) := by
  have main : ¬ mainStart <+: linkStart ++ (hole slug ++ (stop ++ t)) :=
    not_isPrefix_append _ 1 (by decide) (by decide) (by decide)
  rw [opens, List.append_assoc, List.cons_append, tocTargets_append_of_notMem _ none, tocTargets,
    if_pos rfl, if_neg (mt List.isPrefixOf_iff_prefix.1 main), target?_link t quote,
    tocTargets_append_of_notMem _ (by decide : '<' ∉ linkStart), tocTargets_hole]
  rfl

theorem tocTargets_main (before rest : List Char) (opens : s = before ++ '<' :: (mainStart ++ rest))
    (none : '<' ∉ before) : tocTargets (s ++ t) = [] := by
  rw [opens, List.append_assoc, List.cons_append, List.append_assoc,
    tocTargets_append_of_notMem _ none, tocTargets, if_pos rfl,
    if_pos (List.isPrefixOf_iff_prefix.2 (List.prefix_append _ _))]

theorem tocTargets_level (level : Int) :
    tocTargets ((toString level).toList ++ t) = tocTargets t := by
  refine tocTargets_append_of_notMem t fun mem => ?_
  rcases Decimal.isDigit_or_minus_of_mem mem with digit | minus
  · exact absurd digit (by decide)
  · exact absurd minus (by decide)

theorem tocTargets_tocLink (level : Int) (title slug : String) :
    tocTargets (tocLink level title slug ++ t) = slug :: tocTargets t := by
  unfold tocLink
  simp only [List.append_assoc]
  rw [tocTargets_append_of_quiet _ (by decide +kernel), tocTargets_level,
    tocTargets_link _ ['"', '>'] (by decide +kernel) (by decide) (by decide +kernel),
    tocTargets_append_of_quiet _ (by decide +kernel), tocTargets_hole,
    tocTargets_append_of_quiet _ (by decide +kernel)]

end Scan

mutual
theorem tocTargets_tocEntry : ∀ (h : Header) (t : List Char),
    tocTargets (tocEntry h ++ t) = (Header.walk h).map Header.slug ++ tocTargets t
  | ⟨level, title, slug, []⟩, t => by
    rw [tocEntry, List.append_assoc, tocTargets_tocLink,
      tocTargets_append_of_quiet _ (by decide +kernel)]
    rfl
  | ⟨level, title, slug, child :: children⟩, t => by
    simp only [tocEntry, List.append_assoc]
    rw [tocTargets_tocLink, tocTargets_append_of_quiet _ (by decide +kernel), tocTargets_tocEntry child,
      tocTargets_tocEntries children, tocTargets_append_of_quiet _ (by decide +kernel), Header.walk,
      Header.walkAll, List.map_cons, List.map_append, List.cons_append, List.append_assoc, Header.slugs]

theorem tocTargets_tocEntries : ∀ (hs : List Header) (t : List Char),
    tocTargets (tocEntries hs ++ t) = Header.slugs hs ++ tocTargets t
  | [], t => rfl
  | h :: hs, t => by
    rw [tocEntries, List.append_assoc, tocTargets_tocEntry h, tocTargets_tocEntries hs,
      Header.slugs, Header.slugs, Header.walkAll, List.map_append, List.append_assoc]
end

section Shell
variable (t : List Char)

theorem tocTargets_description (excerpt : String) :
    tocTargets (description excerpt ++ t) = tocTargets t := by
  unfold description
  split
  · rfl
  · simp only [List.append_assoc]
    rw [tocTargets_append_of_quiet _ (by decide +kernel), tocTargets_hole,
      tocTargets_append_of_quiet _ (by decide +kernel)]

theorem tocTargets_sidebar (headers : List Header) :
    tocTargets (sidebar headers ++ t) = Header.slugs headers ++ tocTargets t := by
  cases headers with
  | nil => rfl
  | cons h hs =>
    unfold sidebar tocList
    rw [if_neg (by simp)]
    simp only [List.append_assoc]
    rw [tocTargets_append_of_quiet _ (by decide +kernel), tocTargets_append_of_quiet _ (by decide +kernel),
      tocTargets_append_of_quiet _ (by decide +kernel), tocTargets_tocEntries,
      tocTargets_append_of_quiet _ (by decide +kernel), tocTargets_append_of_quiet _ (by decide +kernel)]

theorem tocTargets_opening (d : Document) :
    tocTargets (d.opening ++ t) = Header.slugs d.headers := by
  unfold opening
  simp only [List.append_assoc]
  rw [tocTargets_append_of_quiet _ (by decide +kernel), tocTargets_hole,
    tocTargets_append_of_quiet _ (by decide +kernel),
    tocTargets_append_of_quiet _ (by decide +kernel),
    tocTargets_append_of_quiet _ (by decide +kernel),
    tocTargets_append_of_quiet _ (by decide +kernel), tocTargets_description,
    tocTargets_append_of_quiet _ (by decide +kernel), tocTargets_hole,
    tocTargets_append_of_quiet _ (by decide +kernel),
    tocTargets_append_of_quiet _ (by decide +kernel), tocTargets_hole,
    tocTargets_append_of_quiet _ (by decide +kernel), tocTargets_sidebar,
    tocTargets_main _ "    ".toList "\n      <div class=\"theme-default-content\">\n".toList
      (by decide +kernel) (by decide), List.append_nil]

theorem tocTargets_write (d : Document) : tocTargets d.write.toList = Header.slugs d.headers := by
  rw [write, String.toList_ofList, chars, List.append_assoc, tocTargets_opening]

end Shell
end Document

theorem PageBuild.tocTargets_of_render {b : PageBuild} {html : String}
    (rendered : b.render = .ok html) :
    Document.tocTargets html.toList = b.page.descriptor.slugs := by
  obtain ⟨d, made, rfl⟩ := document_of_render rendered
  rw [Document.tocTargets_write, headers_of_document made, Descriptor.slugs]

namespace Descriptor

/-- The slugs of a descriptor are those of a forest, one for each place and in the order of the places,
and they stand in this order in the payload and in every document. -/
structure Outlined (forest : List Header) (d : Descriptor) : Prop where
  distinct : d.slugs.Nodup
  ordered : ∃ entries : List (List Nat × Header),
    (∀ place h, (place, h) ∈ entries ↔ Header.at? forest place = some h) ∧
    entries.Pairwise (fun a b => a.1 < b.1) ∧ d.slugs = entries.map fun e => e.2.slug
  payload : d.toData.outlineSlugs = d.slugs
  contents : ∀ (b : PageBuild) (html : String), b.page.descriptor = d → b.render = .ok html →
    Document.tocTargets html.toList = d.slugs

theorem outlined (d : Descriptor) : Outlined d.headers d where
  distinct := d.nodup_slugs
  ordered := ⟨Header.locatedAll 0 d.headers, fun _ _ => Header.at?_eq_some_iff.symm,
    Header.sorted_locatedAll 0 d.headers, Header.slugs_eq_map d.headers⟩
  payload := outlineSlugs_toData d
  contents := by
    rintro b html rfl rendered
    exact PageBuild.tocTargets_of_render rendered

/-- A forest in which a slug stands at two places is refused with the first slug, in document order, that
occurs again.  Any other is taken, and its slugs are those of payload and document. -/
theorem first_repeat_refused (fields : PageFields) :
    ((∃ e, make fields = .error e) ↔ ∃ p q h k, p ≠ q ∧
      Header.at? fields.headers p = some h ∧ Header.at? fields.headers q = some k ∧
      h.slug = k.slug) ∧
    (∀ e, make fields = .error e ↔ ∃ place slug,
      Header.FirstRepeat fields.headers place slug ∧ e = .repeatedSlug fields.key slug) ∧
    ∀ d, make fields = .ok d → d.toPageFields = fields ∧ Outlined fields.headers d := by
  refine ⟨make_refuses_iff, fun e => make_eq_error_iff, fun d made => ?_⟩
  cases toPageFields_of_make made
  exact ⟨rfl, outlined d⟩

/-- Of two slugs that occur again, below other entries than before, the one that does so first is named;
and a slug that reads like a link, in an outline and in the text of a page, opens none. -/
theorem first_repeat_refused_below :
    let repeats : PageFields := ⟨"k", "/k.html", "K", "en", .empty, "",
      [⟨2, "A", "a", [⟨3, "B", "b", []⟩]⟩, ⟨2, "C", "c", [⟨3, "B", "b", [⟨4, "A", "a", []⟩]⟩]⟩], ""⟩
    let bad := "\"><a class=\"toc-link\" href=\"#b"
    let nested : List Header := [⟨2, "A", bad, [⟨3, bad, "b", [⟨4, "C", "c", []⟩]⟩]⟩, ⟨2, "D", "d", []⟩]
    make repeats = .error (.repeatedSlug "k" "b") ∧ ∃ d html, d.headers = nested ∧
      PageBuild.render ⟨⟨0, d, fun _ => .ok (.element "p" [("title", bad)] [.text bad])⟩, {}, .empty,
        .ofString ".", ⟨2024, 1, 2, 3, 4, 5, 0⟩⟩ = .ok html ∧
      Document.tocTargets html.toList = [bad, "b", "c", "d"] ∧
      d.toData.outlineSlugs = [bad, "b", "c", "d"] := by
  intro repeats bad nested
  obtain ⟨place, named⟩ := Header.firstRepeated_iff_place.1
    (by decide +kernel : firstRepeated [] (Header.slugs repeats.headers) = some "b")
  let d : Descriptor := ⟨⟨"k", "/k.html", "K", "en", .empty, bad, nested, ""⟩, by decide +kernel⟩
  have outlined := ((first_repeat_refused d.toPageFields).2.2 d (make_toPageFields d)).2
  have slugs : d.slugs = [bad, "b", "c", "d"] := by decide +kernel
  refine ⟨((first_repeat_refused repeats).2.1 _).2 ⟨place, "b", named, rfl⟩, d, _, rfl,
    PageBuild.render_eq_write rfl rfl, ?_, ?_⟩
  · rw [outlined.contents _ _ rfl (PageBuild.render_eq_write rfl rfl), slugs]
  · rw [outlined.payload, slugs]

end Descriptor
end DocPages
