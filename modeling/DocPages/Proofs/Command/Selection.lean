import DocPages.Proofs.Command.Steps
import DocPages.Proofs.Frontend.Tree
import DocPages.Proofs.Markup.Reached
/-! # The pages that the commands select

`generate` looks up all keys and then writes, `list` looks each one up when its turn comes.  Still they
stop at the same key with the same error, and if there is no such key their lines are about the same
pages in the same order (`agrees_of_holds`).  A key that is listed twice has its page built twice, and
where pages do not share files that makes no difference to them (`exists_generate_eraseDups_iff`). -/
set_option autoImplicit false
namespace DocPages.Command

/-! ## Looking up -/

section Lookup
variable {index : PageIndex} {pages : List Page}

def pageAt (index : PageIndex) (key : String) : Page := (index.get key).toOption.getD Frontend.page

theorem mapM_get_iff {keys : List String} {found : List Page} :
    keys.mapM index.get = .ok found ↔
      found = keys.map (pageAt index) ∧ ∀ key ∈ keys, index.get key = .ok (pageAt index key) := by
  constructor
  · intro looked
    have each := Action.map_of_mapM looked
    have same : keys.map (pageAt index) = found := by
      have values := congrArg (List.map fun r => (Except.toOption r).getD Frontend.page) each
      rw [List.map_map, List.map_map] at values
      exact values.trans (List.map_id found)
    refine ⟨same.symm, ?_⟩
    intro key mem
    have result : index.get key ∈ found.map .ok := by
      rw [← each]
      exact List.mem_map_of_mem mem
    obtain ⟨page, _, got⟩ := List.mem_map.1 result
    rw [pageAt, ← got]
    rfl
  · rintro ⟨rfl, known⟩
    apply Action.mapM_of_map
    rw [List.map_map]
    exact List.map_congr_left known

theorem mem_of_get (holds : PageIndex.Holds index pages) {key : String} {page : Page}
    (found : index.get key = .ok page) : page ∈ pages ∧ page.key = key := by
  rcases holds.get_cases key with ⟨page', found', mem, same, _⟩ | ⟨missing, _⟩
  · rw [found] at found'
    cases found'
    exact ⟨mem, same⟩
  · rw [found] at missing
    cases missing

theorem mapM_get_keys (holds : PageIndex.Holds index pages) :
    (pages.map Page.key).mapM index.get = .ok pages := by
  apply Action.mapM_of_map
  rw [List.map_map]
  apply List.map_congr_left
  intro page mem
  exact (holds.mirrors.shared page mem).1

theorem targets_eq_mapM (holds : PageIndex.Holds index pages) (site : SiteConfig) :
    targets index site none = (selectedKeys index site).mapM index.get := by
  rw [targets, selectedKeys]
  split
  · have all := mapM_get_keys holds
    rw [holds.mirrors.descriptors, holds.mirrors.pages, List.map_map]
    exact all.symm
  · rfl

end Lookup

section Selected
variable {index : PageIndex} {pages : List Page} {site : SiteConfig} {outputDir : Option Path}
  {now : Instant} {s : Session}

theorem generate_of_ok {found : List Page} (selected : targets index site none = .ok found) :
    generate index site none outputDir now s = forM found (generatePage site outputDir now) s := by
  have looked : (orFail .lookup (targets index site none) : Running (List Page)) s =
      (.ok found, s) := by
    rw [selected]
    rfl
  rw [generate, Action.bind_of_ok looked]
  rfl

theorem generate_of_error {e : LookupError} (unknown : targets index site none = .error e) :
    generate index site none outputDir now s = (.error (.lookup e), s) := by
  have looked : (orFail .lookup (targets index site none) : Running (List Page)) s =
      (.error (.lookup e), s) := by
    rw [unknown]
    rfl
  rw [generate, Action.bind_of_error looked]

theorem unknown_of_get (holds : PageIndex.Holds index pages) {key : String} {e : LookupError}
    (unknown : index.get key = .error e) :
    e = .unknownKey key index.byKey.keys ∧ key ∉ index.byKey.keys := by
  rw [holds.byKey.keys_eq, List.mem_map]
  rcases holds.get_cases key with ⟨page, found, _⟩ | ⟨missing, other⟩
  · rw [unknown] at found
    cases found
  · rw [unknown] at missing
    cases missing
    refine ⟨rfl, ?_⟩
    rintro ⟨q, mem, same⟩
    exact other q mem same

/-- `generate` without a page and `list` with the same settings. -/
structure Agrees (index : PageIndex) (site : SiteConfig) (outputDir : Option Path) (now : Instant)
    (s : Session) : Prop where
  lookups : ∀ e, (generate index site none outputDir now s).1 = .error (.lookup e) ↔
    (list index site s).1 = .error (.lookup e)
  /-- At the first unknown key `generate` has done nothing, and `list` has printed the lines so far. -/
  stopped : ∀ e, (list index site s).1 = .error (.lookup e) →
    ∃ before key after found, site.pages = before ++ key :: after ∧
      before.mapM index.get = .ok found ∧ key ∉ index.byKey.keys ∧
      e = .unknownKey key index.byKey.keys ∧
      generate index site none outputDir now s = (.error (.lookup e), s) ∧
      list index site s =
        (.error (.lookup e), s.printing (found.map fun p => listLine p.descriptor))
  /-- Otherwise both print a line for each of the same pages. -/
  finished : ∀ s₁ s₂, generate index site none outputDir now s = (.ok (), s₁) →
    list index site s = (.ok (), s₂) →
    ∃ found, (selectedKeys index site).mapM index.get = .ok found ∧
      s₂ = s.printing (found.map fun p => listLine p.descriptor) ∧
      s₁.output = s.output ++
        printed (found.map (pageLine site outputDir now s.files.workingPath))

theorem agrees_of_holds (holds : PageIndex.Holds index pages) (site : SiteConfig)
    (outputDir : Option Path) (now : Instant) (s : Session) : Agrees index site outputDir now s := by
  have selected := targets_eq_mapM holds site
  rcases Action.mapM_cases index.get (selectedKeys index site) with
    ⟨found, looked⟩ | ⟨before, key, after, found, e, split, looked, unknown, stopped⟩
  · have listed : list index site s = _ := forM_listPage_of_ok looked
    have generated := @generate_of_ok index site outputDir now s found (selected.trans looked)
    have quiet : ∀ e, (list index site s).1 ≠ .error (.lookup e) := by
      intro e failed
      rw [listed] at failed
      cases failed
    constructor
    case lookups =>
      intro e
      constructor
      · intro failed
        rw [generated] at failed
        obtain ⟨_, _, _, _, be, _, build⟩ := forM_generatePage_eq_error
          (Prod.ext failed rfl : forM found (generatePage site outputDir now) s = (_, _))
        cases build
      · intro failed
        exact absurd failed (quiet e)
    case stopped =>
      intro e failed
      exact absurd failed (quiet e)
    case finished =>
      intro s₁ s₂ ran ran'
      rw [listed] at ran'
      cases ran'
      rw [generated] at ran
      exact ⟨found, looked, rfl, (forM_generatePage_iff.1 ran).2⟩
  · have listed : list index site s = (.error (.lookup e),
        s.printing (found.map fun p => listLine p.descriptor)) := by
      rw [list_eq_forM, split]
      exact forM_listPage_of_error looked unknown
    have generated := @generate_of_error index site outputDir now s e (selected.trans stopped)
    have configured : site.pages = before ++ key :: after := by
      rw [← split, selectedKeys]
      split
      next none =>
        rw [selectedKeys, if_pos none, holds.mirrors.descriptors, List.map_map] at stopped
        have all := mapM_get_keys holds
        rw [show pages.map ((fun d : Descriptor => d.key) ∘ Page.descriptor) = pages.map Page.key
          from rfl, all] at stopped
        cases stopped
      next => rfl
    constructor
    case lookups =>
      intro e'
      rw [generated, listed]
    case stopped =>
      intro e' failed
      rw [listed] at failed
      cases failed
      obtain ⟨named, absent⟩ := unknown_of_get holds unknown
      exact ⟨before, key, after, found, configured, looked, absent, named, generated, listed⟩
    case finished =>
      intro s₁ s₂ _ ran'
      rw [listed] at ran'
      cases ran'

/-! ## Keys that are listed more than once -/

def withKeys (site : SiteConfig) (keys : List String) : SiteConfig := { site with pages := keys }

/-- `generate` succeeds exactly if every selected key is known and the builds succeed one after the
other.  Besides the selection they do not depend on the list of keys. -/
theorem exists_generate_iff (holds : PageIndex.Holds index pages) {keys : List String}
    {files : FileSystem} :
    (∃ s', generate index (withKeys site keys) none outputDir now s = (.ok (), s') ∧
      s'.files = files) ↔
    (∀ key ∈ selectedKeys index (withKeys site keys), index.get key = .ok (pageAt index key)) ∧
      PageBuild.Leads ((selectedKeys index (withKeys site keys)).map
        (pageBuild site outputDir now ∘ pageAt index)) s.files files := by
  have selected := targets_eq_mapM holds (withKeys site keys)
  rw [← List.map_map]
  constructor
  · rintro ⟨s', ran, rfl⟩
    rcases looked : targets index (withKeys site keys) none with e | found
    · rw [generate_of_error looked] at ran
      cases ran
    · rw [generate_of_ok looked] at ran
      obtain ⟨rfl, known⟩ := mapM_get_iff.1 (selected.symm.trans looked)
      exact ⟨known, ((@forM_generatePage_iff site outputDir now s s' _).1 ran).1⟩
  · rintro ⟨known, leads⟩
    have looked := selected.trans (mapM_get_iff.2 ⟨rfl, known⟩)
    have ran := (@forM_generatePage_iff site outputDir now s ⟨files, _⟩ _).2 ⟨leads, rfl⟩
    exact ⟨_, (generate_of_ok looked).trans ran, rfl⟩

theorem exists_generate_eraseDups_iff (holds : PageIndex.Holds index pages)
    (apart : ∀ p ∈ pages, ∀ q ∈ pages, q ≠ p → ∀ working,
      List.Disjoint ((pageBuild site outputDir now p).places working)
        ((pageBuild site outputDir now q).places working))
    {files : FileSystem} :
    (∃ s', generate index (withKeys site site.pages.eraseDups) none outputDir now s = (.ok (), s') ∧
      s'.files = files) ↔
    ∃ s', generate index site none outputDir now s = (.ok (), s') ∧ s'.files = files := by
  change _ ↔ ∃ s', generate index (withKeys site site.pages) none outputDir now s = (.ok (), s') ∧ _
  cases keys : site.pages with
  | nil => exact Iff.rfl
  | cons first rest =>
    rw [exists_generate_iff holds, exists_generate_iff holds]
    have once : selectedKeys index (withKeys site (first :: rest).eraseDups) =
        (first :: rest).eraseDups := by
      rw [List.eraseDups_cons]
      rfl
    have all : selectedKeys index (withKeys site (first :: rest)) = first :: rest := rfl
    rw [once, all]
    simp only [List.mem_eraseDups]
    apply and_congr_right
    intro known
    apply PageBuild.leads_eraseDups_iff
    intro key mem key' mem' other
    obtain ⟨listed, named⟩ := mem_of_get holds (known key mem)
    obtain ⟨listed', named'⟩ := mem_of_get holds (known key' mem')
    apply apart _ listed _ listed'
    intro same
    apply other
    rw [← named, ← named', same]

end Selected

/-! ## The pages of the library -/

theorem holds_standardIndex : PageIndex.Holds Frontend.standardIndex [Frontend.page] := ⟨rfl, rfl⟩

theorem render_page {context : Context} {marker : Component}
    (provides : context.resolve OutboundLink.name = .ok marker) :
    Frontend.render context = .ok (Frontend.tree marker) := by
  obtain ⟨nodes, rendered, tree⟩ := Frontend.render_performAll [] provides
  have ran : ((Frontend.renderTracked context).run Frontend.newCache).1 = .ok nodes := rendered
  rw [Frontend.render, ran, ← tree]
  rfl

theorem render_pageBuild (site : SiteConfig) (outputDir : Option Path) (now : Instant) :
    ∃ html, (pageBuild site outputDir now Frontend.page).render = .ok html := by
  have provides : (Context.standard 0 site.outboundLinkLabel).resolve OutboundLink.name =
      .ok (OutboundLink.component 0 ⟨site.outboundLinkLabel⟩) := rfl
  have nodes : Markup.reached
      (Frontend.tree (OutboundLink.component 0 ⟨site.outboundLinkLabel⟩)) = [] := rfl
  obtain ⟨markup, serialized⟩ := Markup.render_eq_ok nodes
  exact ⟨_, PageBuild.render_eq_write (render_page provides) serialized⟩

/-- With the same settings and no page asked for, `generate` and `list` fail to find the same key, and
otherwise their lines are about the same pages.  Other than by an unknown key `generate` is stopped by
the operating system only, and a key that is listed again changes none of its files. -/
theorem generate_matches_list (site : SiteConfig) (outputDir : Option Path) (now : Instant)
    (s : Session) :
    Agrees Frontend.standardIndex site outputDir now s ∧
    (∀ e, (generate Frontend.standardIndex site none outputDir now s).1 = .error e →
      (∃ unknown, e = .lookup unknown) ∨ ∃ o, e = .build (.os o)) ∧
    ∀ files,
      (∃ s', generate Frontend.standardIndex (withKeys site site.pages.eraseDups) none outputDir now s =
        (.ok (), s') ∧ s'.files = files) ↔
      ∃ s', generate Frontend.standardIndex site none outputDir now s = (.ok (), s') ∧
        s'.files = files := by
  have holds := holds_standardIndex
  refine ⟨agrees_of_holds holds site outputDir now s, ?errors, ?repeats⟩
  case errors =>
    intro e failed
    rcases looked : targets Frontend.standardIndex site none with unknown | found
    · rw [generate_of_error looked] at failed
      cases failed
      exact Or.inl ⟨unknown, rfl⟩
    · right
      rw [generate_of_ok looked] at failed
      obtain ⟨page, mem, files, after, be, ran, rfl⟩ := forM_generatePage_eq_error
        (Prod.ext failed rfl : forM found (generatePage site outputDir now) s = (_, _))
      have only : page = Frontend.page := by
        obtain ⟨rfl, known⟩ := mapM_get_iff.1 ((targets_eq_mapM holds site).symm.trans looked)
        obtain ⟨key, selected, rfl⟩ := List.mem_map.1 mem
        exact List.mem_singleton.1 (mem_of_get holds (known key selected)).1
      subst only
      obtain ⟨html, rendered⟩ := render_pageBuild site outputDir now
      obtain ⟨o, rfl⟩ := PageBuild.os_of_run_error rendered ran
      exact ⟨o, rfl⟩
  case repeats =>
    intro files
    apply exists_generate_eraseDups_iff holds
    intro p mem q mem' other
    rw [List.mem_singleton] at mem mem'
    exact absurd (mem'.trans mem.symm) other

/-- The page listed twice, and with an unknown key between. -/
theorem generate_matches_list_repeated :
    let s : Session := ⟨FileSystem.new ["docs"], ""⟩
    let once : SiteConfig := { pages := ["v-79a3b5bd"] }
    let twice : SiteConfig := { pages := ["v-79a3b5bd", "v-79a3b5bd"] }
    let stray : SiteConfig := { pages := ["v-79a3b5bd", "missing", "v-79a3b5bd"] }
    let outputDir := some (Path.ofString "/")
    let now : Instant := ⟨2024, 1, 2, 3, 4, 5, 0⟩
    let unknown := LookupError.unknownKey "missing" ["v-79a3b5bd"]
    let line := "v-79a3b5bd\t/docs/no07-frontend.html\tRport Frontend"
    (∃ s₁ s₂ s₃, generate Frontend.standardIndex twice none outputDir now s = (.ok (), s₁) ∧
      list Frontend.standardIndex twice s = (.ok (), s₂) ∧
      s₁.output = printed ["wrote no07-frontend.html", "wrote no07-frontend.html"] ∧
      s₂ = s.printing [line, line] ∧
      generate Frontend.standardIndex once none outputDir now s = (.ok (), s₃) ∧
      s₃.files = s₁.files) ∧
    generate Frontend.standardIndex stray none outputDir now s = (.error (.lookup unknown), s) ∧
    list Frontend.standardIndex stray s = (.error (.lookup unknown), s.printing [line]) := by
  intro s once twice stray outputDir now unknown line
  constructor
  · have ready : ∀ b ∈ [Frontend.page, Frontend.page].map (pageBuild twice outputDir now),
        PageBuild.Ready s.files b := by
      intro b mem
      have only : b = pageBuild twice outputDir now Frontend.page := by simpa using mem
      rw [only]
      refine ⟨render_pageBuild twice outputDir now, by decide +kernel,
        ⟨["docs", "no07-frontend.html"], by decide +kernel, ?_⟩,
        ⟨["docs", ".rport-pages-v-79a3b5bd-data.json"], by decide +kernel, ?_⟩⟩
      · exact (Option.some_ne_none _).symm
      · exact (Option.some_ne_none _).symm
    obtain ⟨files, ran⟩ := PageBuild.runAll_of_ready ready
    have selected : targets Frontend.standardIndex twice none = .ok [Frontend.page, Frontend.page] :=
      rfl
    have generated := (@generate_of_ok _ twice outputDir now s _ selected).trans
      ((@forM_generatePage_iff twice outputDir now s ⟨files, _⟩ _).2 ⟨⟨_, ran⟩, rfl⟩)
    have listed : list Frontend.standardIndex twice s = _ :=
      @forM_listPage_of_ok Frontend.standardIndex s _ [Frontend.page, Frontend.page] rfl
    obtain ⟨agrees, _, repeats⟩ := generate_matches_list twice outputDir now s
    obtain ⟨found, looked, lines, output⟩ := agrees.finished _ _ generated listed
    obtain ⟨s₃, again, same⟩ := (repeats files).2 ⟨_, generated, rfl⟩
    cases looked
    exact ⟨_, _, s₃, generated, listed, by rw [output]; decide +kernel, lines, again, same⟩
  · have failed : (list Frontend.standardIndex stray s).1 = .error (.lookup unknown) := rfl
    obtain ⟨agrees, _⟩ := generate_matches_list stray outputDir now s
    obtain ⟨_, _, _, _, _, _, _, _, generated, _⟩ := agrees.stopped unknown failed
    exact ⟨generated, rfl⟩

end DocPages.Command
