import DocPages.Build
import DocPages.Proofs.Action
import DocPages.Proofs.Document.Instant
import DocPages.Proofs.Text.References
/-! # Documents tell their parts

A document is cut into its parts from both ends.  Up to the content every hole ends at a quote or a
bracket that no escaped text holds, and the optional blocks and the entries of the table of contents
are told apart by their first characters; behind the content the same holds from the end.  So the
content may imitate any part of the shell: two documents are equal exactly when all of their parts are
(`write_injective`). -/
set_option autoImplicit false
namespace DocPages.Document

open Text (append_inj_of_stop append_inj_of_start append_ne_append stop_append start_append)

theorem mem_hole {s : String} {c : Char} (h : c ∈ hole s) : c ≠ '<' ∧ c ≠ '>' ∧ c ≠ '"' := by
  obtain ⟨d, _, hd⟩ := List.mem_flatMap.1 h
  exact Text.References.mem_hole hd

theorem hole_append_inj {s s' : String} {a ys ys' : List Char} {d : Char}
    (first : a.head? = some d) (mark : d = '"' ∨ d = '<')
    (same : hole s ++ (a ++ ys) = hole s' ++ (a ++ ys')) : s = s' ∧ ys = ys' := by
  have inside (t : String) : ∀ c ∈ hole t, (c != '"' && c != '<') = true := by
    intro c hc
    obtain ⟨lt, _, quote⟩ := mem_hole hc
    simp [lt, quote]
  have outside : (d != '"' && d != '<') = false := by
    rcases mark with rfl | rfl <;> rfl
  obtain ⟨written, rest⟩ := append_inj_of_stop (inside s) (inside s')
    (stop_append first outside ys) (stop_append first outside ys') same
  exact ⟨Text.References.undone_hole.write_injective written, List.append_cancel_left rest⟩

theorem append_hole_inj {s s' : String} {a ys ys' : List Char} {d : Char}
    (last : a.getLast? = some d) (mark : d = '"' ∨ d = '>')
    (same : ys ++ a ++ hole s = ys' ++ a ++ hole s') : ys = ys' ∧ s = s' := by
  have inside (t : String) : ∀ c ∈ hole t, (c != '"' && c != '>') = true := by
    intro c hc
    obtain ⟨_, gt, quote⟩ := mem_hole hc
    simp [gt, quote]
  have outside : (d != '"' && d != '>') = false := by
    rcases mark with rfl | rfl <;> rfl
  obtain ⟨rest, written⟩ := append_inj_of_start (inside s) (inside s')
    (start_append last outside ys) (start_append last outside ys') same
  exact ⟨List.append_cancel_right rest, Text.References.undone_hole.write_injective written⟩

/-! ## The table of contents -/

theorem level_append_inj {m n : Int} {a ys ys' : List Char} (first : a.head? = some '"')
    (same : (toString m).toList ++ (a ++ ys) = (toString n).toList ++ (a ++ ys')) :
    m = n ∧ ys = ys' := by
  have inside (k : Int) : ∀ c ∈ (toString k).toList, (c != '"') = true := by
    intro c hc
    rcases Decimal.isDigit_or_minus_of_mem hc with digit | rfl
    · rw [bne_iff_ne]
      rintro rfl
      exact absurd digit (by decide)
    · rfl
  obtain ⟨written, rest⟩ := append_inj_of_stop (inside m) (inside n) (stop_append first rfl ys)
    (stop_append first rfl ys') same
  have repr : m.repr = n.repr := String.toList_inj.1 written
  exact ⟨Int.repr_injective repr, List.append_cancel_left rest⟩

theorem tocLink_append_inj {level level' : Int} {title title' slug slug' : String}
    {ys ys' : List Char}
    (same : tocLink level title slug ++ ys = tocLink level' title' slug' ++ ys') :
    level = level' ∧ title = title' ∧ slug = slug' ∧ ys = ys' := by
  unfold tocLink at same
  simp only [List.append_assoc] at same
  obtain ⟨levels, same⟩ := level_append_inj (by simp) (List.append_cancel_left same)
  obtain ⟨slugs, same⟩ := hole_append_inj (by simp) (Or.inl rfl) same
  obtain ⟨titles, same⟩ := hole_append_inj (by simp) (Or.inr rfl) same
  exact ⟨levels, titles, slugs, same⟩

theorem head?_tocEntry (h : Header) (ys : List Char) : (tocEntry h ++ ys).head? = some ' ' := by
  obtain ⟨level, title, slug, children⟩ := h
  cases children with
  | nil => rfl
  | cons child children => rfl

mutual
theorem tocEntry_append_inj : ∀ (h h' : Header) {ys ys' : List Char},
    tocEntry h ++ ys = tocEntry h' ++ ys' → h = h' ∧ ys = ys'
  | ⟨level, title, slug, []⟩, ⟨level', title', slug', []⟩, ys, ys', same => by
    simp only [tocEntry, List.append_assoc] at same
    obtain ⟨rfl, rfl, rfl, rest⟩ := tocLink_append_inj same
    exact ⟨rfl, List.append_cancel_left rest⟩
  | ⟨_, _, _, []⟩, ⟨_, _, _, _ :: _⟩, ys, ys', same => by
    simp only [tocEntry, List.append_assoc] at same
    obtain ⟨_, _, _, same⟩ := tocLink_append_inj same
    exact absurd same (append_ne_append 4 (by simp) (by simp) (by simp) _ _)
  | ⟨_, _, _, _ :: _⟩, ⟨_, _, _, []⟩, ys, ys', same => by
    simp only [tocEntry, List.append_assoc] at same
    obtain ⟨_, _, _, same⟩ := tocLink_append_inj same
    exact absurd same (append_ne_append 4 (by simp) (by simp) (by simp) _ _)
  | ⟨level, title, slug, child :: children⟩, ⟨level', title', slug', child' :: children'⟩,
      ys, ys', same => by
    simp only [tocEntry, List.append_assoc] at same
    obtain ⟨rfl, rfl, rfl, list⟩ := tocLink_append_inj same
    obtain ⟨rfl, below⟩ := tocEntry_append_inj child child' (List.append_cancel_left list)
    obtain ⟨rfl, rest⟩ := tocEntries_append_inj children children' (by simp) (by simp) below
    exact ⟨rfl, List.append_cancel_left rest⟩

/-- Entries start with a blank, so the list of them ends at the first bracket. -/
theorem tocEntries_append_inj : ∀ (hs hs' : List Header) {ys ys' : List Char},
    ys.head? = some '<' → ys'.head? = some '<' →
      tocEntries hs ++ ys = tocEntries hs' ++ ys' → hs = hs' ∧ ys = ys'
  | [], [], _, _, _, _, same => ⟨rfl, same⟩
  | [], h' :: hs', ys, ys', first, _, same => by
    rw [tocEntries, tocEntries, List.append_assoc, List.nil_append] at same
    rw [same, head?_tocEntry] at first
    exact absurd first (by decide)
  | h :: hs, [], ys, ys', _, first', same => by
    rw [tocEntries, tocEntries, List.append_assoc, List.nil_append] at same
    rw [← same, head?_tocEntry] at first'
    exact absurd first' (by decide)
  | h :: hs, h' :: hs', ys, ys', first, first', same => by
    rw [tocEntries, tocEntries, List.append_assoc, List.append_assoc] at same
    obtain ⟨rfl, later⟩ := tocEntry_append_inj h h' same
    obtain ⟨rfl, rest⟩ := tocEntries_append_inj hs hs' first first' later
    exact ⟨rfl, rest⟩
end

/-! ## The shell -/

theorem description_append_inj {e e' : String} {ys ys' : List Char}
    (same : description e ++ ("  <title>".toList ++ ys) =
      description e' ++ ("  <title>".toList ++ ys')) : e = e' ∧ ys = ys' := by
  unfold description at same
  by_cases he : e.isEmpty = true
  · by_cases he' : e'.isEmpty = true
    · rw [if_pos he, if_pos he'] at same
      exact ⟨(String.isEmpty_iff.1 he).trans (String.isEmpty_iff.1 he').symm,
        List.append_cancel_left same⟩
    · simp only [if_pos he, if_neg he', List.nil_append, List.append_assoc] at same
      exact absurd same (append_ne_append 4 (by simp) (by simp) (by simp) _ _)
  · by_cases he' : e'.isEmpty = true
    · simp only [if_neg he, if_pos he', List.nil_append, List.append_assoc] at same
      exact absurd same (append_ne_append 4 (by simp) (by simp) (by simp) _ _)
    · simp only [if_neg he, if_neg he', List.append_assoc] at same
      obtain ⟨excerpt, same⟩ := hole_append_inj (by simp) (Or.inl rfl) (List.append_cancel_left same)
      exact ⟨excerpt, List.append_cancel_left same⟩

theorem sidebar_append_inj {hs hs' : List Header} {ys ys' : List Char}
    (same : sidebar hs ++
        ("    <main class=\"page\">\n      <div class=\"theme-default-content\">\n".toList ++ ys) =
      sidebar hs' ++
        ("    <main class=\"page\">\n      <div class=\"theme-default-content\">\n".toList ++ ys')) :
    hs = hs' ∧ ys = ys' := by
  unfold sidebar at same
  cases hs with
  | nil =>
    cases hs' with
    | nil => exact ⟨rfl, List.append_cancel_left same⟩
    | cons h' hs' =>
      simp only [List.isEmpty_nil, List.isEmpty_cons, Bool.false_eq_true, if_true, if_false,
        List.nil_append, List.append_assoc] at same
      exact absurd same (append_ne_append 6 (by simp) (by simp) (by simp) _ _)
  | cons h hs =>
    cases hs' with
    | nil =>
      simp only [List.isEmpty_nil, List.isEmpty_cons, Bool.false_eq_true, if_true, if_false,
        List.nil_append, List.append_assoc] at same
      exact absurd same (append_ne_append 6 (by simp) (by simp) (by simp) _ _)
    | cons h' hs' =>
      unfold tocList at same
      simp only [List.isEmpty_cons, Bool.false_eq_true, if_false, List.append_assoc] at same
      have same := List.append_cancel_left
        (List.append_cancel_left (List.append_cancel_left same))
      obtain ⟨forest, same⟩ := tocEntries_append_inj (h :: hs) (h' :: hs') (by simp) (by simp) same
      have same := List.append_cancel_left (List.append_cancel_left same)
      exact ⟨forest, List.append_cancel_left same⟩

theorem opening_append_inj {d d' : Document} {ys ys' : List Char}
    (same : d.opening ++ ys = d'.opening ++ ys') :
    d.language = d'.language ∧ d.excerpt = d'.excerpt ∧ d.title = d'.title ∧ d.key = d'.key ∧
      d.headers = d'.headers ∧ ys = ys' := by
  unfold opening at same
  simp only [List.append_assoc] at same
  obtain ⟨language, same⟩ := hole_append_inj (by simp) (Or.inl rfl) (List.append_cancel_left same)
  have same := List.append_cancel_left (List.append_cancel_left (List.append_cancel_left same))
  obtain ⟨excerpt, same⟩ := description_append_inj same
  obtain ⟨title, same⟩ := hole_append_inj (by simp) (Or.inr rfl) same
  obtain ⟨key, same⟩ := hole_append_inj (by simp) (Or.inl rfl) (List.append_cancel_left same)
  obtain ⟨headers, same⟩ := sidebar_append_inj same
  exact ⟨language, excerpt, title, key, headers, same⟩

theorem append_ending_inj {d d' : Document} {xs xs' : List Char}
    (same : xs ++ d.ending = xs' ++ d'.ending) :
    xs = xs' ∧ d.siteName = d'.siteName ∧ d.generated = d'.generated := by
  unfold ending at same
  simp only [← List.append_assoc] at same
  obtain ⟨same, _⟩ := append_hole_inj (by simp) (Or.inr rfl) (List.append_cancel_right same)
  obtain ⟨same, timestamp⟩ := append_hole_inj (by simp) (Or.inl rfl) same
  obtain ⟨same, siteName⟩ := append_hole_inj (by simp) (Or.inr rfl) same
  exact ⟨same, siteName, Instant.timestamp_injective timestamp⟩

theorem write_injective : Function.Injective write := by
  intro d d' same
  have chars : d.chars = d'.chars := by
    rw [← String.toList_ofList (l := d.chars), ← write, same, write, String.toList_ofList]
  unfold Document.chars at chars
  obtain ⟨front, siteName, generated⟩ := append_ending_inj chars
  obtain ⟨language, excerpt, title, key, headers, content⟩ := opening_append_inj front
  have content := String.toList_inj.1 content
  cases d
  cases d'
  simp_all

end DocPages.Document

namespace DocPages.PageBuild

theorem render_eq_write {b : PageBuild} {tree : Node} {content : String}
    (renders : b.page.render b.context = .ok tree) (serializes : Markup.render tree = .ok content) :
    b.render = .ok (Document.write
      ⟨b.page.descriptor.language, b.page.descriptor.excerpt,
        b.site.documentTitle b.page.descriptor.title, b.page.descriptor.key,
        b.page.descriptor.headers, content, b.site.siteName, b.now⟩) := by
  rw [render, document, renders]
  simp only [Action.mapError_ok, bind, Except.bind, serializes]
  rfl

/-- Two pages whose trees serialize are the same text exactly when all that the shell shows of them is
the same. -/
theorem render_eq_iff_parts_eq (b b' : PageBuild) (tree tree' : Node) (content content' : String)
    (renders : b.page.render b.context = .ok tree)
    (renders' : b'.page.render b'.context = .ok tree')
    (serializes : Markup.render tree = .ok content)
    (serializes' : Markup.render tree' = .ok content') :
    ∃ html html', b.render = .ok html ∧ b'.render = .ok html' ∧
      (html = html' ↔
        b.page.descriptor.language = b'.page.descriptor.language ∧
        b.page.descriptor.excerpt = b'.page.descriptor.excerpt ∧
        b.site.documentTitle b.page.descriptor.title =
          b'.site.documentTitle b'.page.descriptor.title ∧
        b.page.descriptor.key = b'.page.descriptor.key ∧
        b.page.descriptor.headers = b'.page.descriptor.headers ∧
        content = content' ∧ b.site.siteName = b'.site.siteName ∧ b.now = b'.now) := by
  refine ⟨_, _, render_eq_write renders serializes, render_eq_write renders' serializes', ?_⟩
  rw [Document.write_injective.eq_iff, Document.mk.injEq]

/-- Two pages of which the content of one imitates the shell around the content of the other. -/
theorem render_eq_iff_parts_eq_imitation :
    let descriptor : Descriptor :=
      ⟨⟨"k\">", "/", "</title>", "en", .empty, "\n", [⟨2, "</a>", "\"", [⟨-3, "", "", []⟩]⟩], ""⟩,
        by decide⟩
    let build (html : String) : PageBuild :=
      ⟨⟨0, descriptor, fun _ => .ok (.static html 1)⟩, {}, .empty, .ofString ".",
        ⟨2024, 1, 2, 3, 4, 5, 0⟩⟩
    let b := build "\n      </div>\n"
    let b' := build "\n      </div>\n\n      </div>\n"
    (b.page.render b.context = .ok (.static "\n      </div>\n" 1) ∧
      b'.page.render b'.context = .ok (.static "\n      </div>\n\n      </div>\n" 1) ∧
      Markup.render (.static "\n      </div>\n" 1) = .ok "\n      </div>\n" ∧
      Markup.render (.static "\n      </div>\n\n      </div>\n" 1) =
        .ok "\n      </div>\n\n      </div>\n") ∧
    ∃ html html', b.render = .ok html ∧ b'.render = .ok html' ∧ html ≠ html' := by
  intro descriptor build b b'
  have serializes (s : String) : Markup.render (.static s 1) = .ok s := by
    simp [Markup.render, Markup.write, Except.map]
  obtain ⟨html, html', rendered, rendered', same⟩ := render_eq_iff_parts_eq b b' _ _ _ _ rfl rfl
    (serializes "\n      </div>\n") (serializes "\n      </div>\n\n      </div>\n")
  refine ⟨⟨rfl, rfl, serializes _, serializes _⟩, html, html', rendered, rendered', fun e => ?_⟩
  obtain ⟨_, _, _, _, _, content, _⟩ := same.1 e
  exact absurd content (by decide)

end DocPages.PageBuild
