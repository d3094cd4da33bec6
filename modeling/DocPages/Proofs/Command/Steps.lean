import DocPages.Command.Run
import DocPages.Proofs.Build.Again
import DocPages.Proofs.Page.Index
/-! # What the commands do for a list of pages

`list` prints a line for every key that is looked up, up to the first unknown one; `generate` runs the
builds of its pages in turn and prints a line after each.  Both only ever add to the output. -/
set_option autoImplicit false
namespace DocPages.Command

def printed : List String → String
  | [] => ""
  | line :: rest => line ++ "\n" ++ printed rest

def Session.printing (s : Session) (lines : List String) : Session :=
  { s with output := s.output ++ printed lines }

section Output
variable (s : Session)

theorem printing_nil : s.printing [] = s := by
  rw [Session.printing, printed, String.append_empty]

theorem printing_cons (line : String) (lines : List String) :
    (s.printing [line]).printing lines = s.printing (line :: lines) := by
  simp only [Session.printing, printed, String.append_empty, String.append_assoc]

theorem print_eq (line : String) : print line s = (.ok (), s.printing [line]) := by
  rw [Session.printing, printed, printed, String.append_empty, ← String.append_assoc]
  rfl

end Output

/-! ## Listing -/

def listPage (index : PageIndex) (key : String) : Running Unit := do
  let page ← orFail .lookup (index.get key)
  print (listLine page.descriptor)

theorem list_eq_forM (index : PageIndex) (site : SiteConfig) :
    list index site = forM (selectedKeys index site) (listPage index) := rfl

section Listing
variable {index : PageIndex} {s : Session}

theorem listPage_of_ok {key : String} {page : Page} (found : index.get key = .ok page) :
    listPage index key s = (.ok (), s.printing [listLine page.descriptor]) := by
  have looked : (orFail .lookup (index.get key) : Running Page) s = (.ok page, s) := by
    rw [found]
    rfl
  rw [listPage, Action.bind_of_ok looked, print_eq]

theorem listPage_of_error {key : String} {e : LookupError} (unknown : index.get key = .error e) :
    listPage index key s = (.error (.lookup e), s) := by
  have looked : (orFail .lookup (index.get key) : Running Page) s = (.error (.lookup e), s) := by
    rw [unknown]
    rfl
  rw [listPage, Action.bind_of_error looked]

theorem forM_listPage_of_ok {keys : List String} {found : List Page}
    (looked : keys.mapM index.get = .ok found) :
    forM keys (listPage index) s =
      (.ok (), s.printing (found.map fun p => listLine p.descriptor)) := by
  induction keys generalizing found s with
  | nil =>
    rw [List.mapM_nil] at looked
    cases looked
    rw [List.map_nil, printing_nil]
    rfl
  | cons key rest ih =>
    obtain ⟨page, pages, first, later, rfl⟩ := Action.mapM_cons_eq_ok looked
    rw [List.forM_cons, Action.bind_of_ok (listPage_of_ok first), ih later, printing_cons,
      List.map_cons]

theorem forM_listPage_of_error {before after : List String} {key : String} {found : List Page}
    {e : LookupError} (looked : before.mapM index.get = .ok found)
    (unknown : index.get key = .error e) :
    forM (before ++ key :: after) (listPage index) s =
      (.error (.lookup e), s.printing (found.map fun p => listLine p.descriptor)) := by
  rw [List.forM_append, Action.bind_of_ok (forM_listPage_of_ok looked), List.forM_cons,
    Action.bind_of_error (listPage_of_error unknown)]

end Listing

/-! ## Generating -/

def pageBuild (site : SiteConfig) (outputDir : Option Path) (now : Instant) (page : Page) : PageBuild :=
  PageBuild.new page site none outputDir now

section Generating
variable {site : SiteConfig} {outputDir : Option Path} {now : Instant} {s s' : Session}

def pageLine (site : SiteConfig) (outputDir : Option Path) (now : Instant) (working : Path)
    (page : Page) : String :=
  writtenLine (pageBuild site outputDir now page).outputPath working

theorem onFiles_of_ok {α : Type} {action : Building α} {a : α} {files : FileSystem}
    (ran : action s.files = (.ok a, files)) :
    onFiles action s = (.ok a, { s with files := files }) := by
  rw [onFiles, ran]

theorem onFiles_of_error {α : Type} {action : Building α} {e : BuildError} {files : FileSystem}
    (ran : action s.files = (.error e, files)) :
    onFiles action s = (.error (.build e), { s with files := files }) := by
  rw [onFiles, ran]

theorem workingPath_of_run {b : PageBuild} {files after : FileSystem} {path : Path}
    (ran : b.run files = (.ok path, after)) : after.workingPath = files.workingPath := by
  rw [FileSystem.workingPath, FileSystem.workingPath, (PageBuild.frame_of_run ran).working]

theorem generatePage_eq (page : Page) :
    generatePage site outputDir now page =
      (onFiles (pageBuild site outputDir now page).run >>= fun path =>
        get >>= fun s : Session => print (writtenLine path s.files.workingPath)) := rfl

theorem generatePage_of_ok {page : Page} {files : FileSystem}
    (ran : (pageBuild site outputDir now page).run s.files =
      (.ok (pageBuild site outputDir now page).outputPath, files)) :
    generatePage site outputDir now page s =
      (.ok (), ({ s with files := files } : Session).printing
        [pageLine site outputDir now s.files.workingPath page]) := by
  have first := onFiles_of_ok ran
  rw [generatePage_eq, Action.bind_of_ok first]
  rw [← workingPath_of_run ran]
  exact print_eq _ _

theorem generatePage_of_error {page : Page} {e : BuildError} {files : FileSystem}
    (ran : (pageBuild site outputDir now page).run s.files = (.error e, files)) :
    generatePage site outputDir now page s = (.error (.build e), { s with files := files }) := by
  rw [generatePage_eq, Action.bind_of_error (onFiles_of_error ran)]

theorem generatePage_eq_ok {page : Page} (ran : generatePage site outputDir now page s = (.ok (), s')) :
    ∃ files, (pageBuild site outputDir now page).run s.files =
        (.ok (pageBuild site outputDir now page).outputPath, files) ∧
      s' = ({ s with files := files } : Session).printing
        [pageLine site outputDir now s.files.workingPath page] := by
  rcases built : (pageBuild site outputDir now page).run s.files with ⟨e | path, files⟩
  · rw [generatePage_of_error built] at ran
    cases ran
  · obtain ⟨rfl, _⟩ := PageBuild.run_eq_ok built
    rw [generatePage_of_ok built] at ran
    cases ran
    exact ⟨files, rfl, rfl⟩

theorem forM_generatePage_iff {pages : List Page} :
    forM pages (generatePage site outputDir now) s = (.ok (), s') ↔
      PageBuild.Leads (pages.map (pageBuild site outputDir now)) s.files s'.files ∧
        s'.output = s.output ++
          printed (pages.map (pageLine site outputDir now s.files.workingPath)) := by
  induction pages generalizing s with
  | nil =>
    rw [List.map_nil, List.map_nil, PageBuild.leads_nil, printed, String.append_empty]
    constructor
    · intro ran
      cases ran
      exact ⟨rfl, rfl⟩
    · rintro ⟨files, output⟩
      cases s
      cases s'
      cases files
      cases output
      rfl
  | cons page rest ih =>
    rw [List.forM_cons, List.map_cons, List.map_cons, PageBuild.leads_cons, printed,
      ← String.append_assoc, ← String.append_assoc]
    constructor
    · intro ran
      obtain ⟨_, middle, first, ran⟩ := Action.bind_eq_ok ran
      obtain ⟨files, built, rfl⟩ := generatePage_eq_ok first
      obtain ⟨leads, output⟩ := ih.1 ran
      refine ⟨⟨files, built, leads⟩, ?_⟩
      rw [output]
      simp only [Session.printing, printed, String.append_empty, ← String.append_assoc]
      rw [workingPath_of_run built]
    · rintro ⟨⟨files, built, leads⟩, output⟩
      rw [Action.bind_of_ok (generatePage_of_ok built)]
      refine ih.2 ⟨leads, ?_⟩
      rw [output]
      simp only [Session.printing, printed, String.append_empty, ← String.append_assoc]
      rw [workingPath_of_run built]

theorem forM_generatePage_eq_error {pages : List Page} {e : RunError}
    (failed : forM pages (generatePage site outputDir now) s = (.error e, s')) :
    ∃ page ∈ pages, ∃ files after be,
      (pageBuild site outputDir now page).run files = (.error be, after) ∧ e = .build be := by
  induction pages generalizing s with
  | nil => cases failed
  | cons page rest ih =>
    rw [List.forM_cons] at failed
    rcases Action.bind_eq_error failed with first | ⟨_, middle, _, later⟩
    · rcases built : (pageBuild site outputDir now page).run s.files with ⟨be | path, files⟩
      · rw [generatePage_of_error built] at first
        cases first
        exact ⟨page, List.mem_cons_self, s.files, files, be, built, rfl⟩
      · obtain ⟨rfl, _⟩ := PageBuild.run_eq_ok built
        rw [generatePage_of_ok built] at first
        cases first
    · obtain ⟨page', mem, found⟩ := ih later
      exact ⟨page', List.mem_cons_of_mem _ mem, found⟩

end Generating
end DocPages.Command
