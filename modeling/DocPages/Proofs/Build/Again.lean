import DocPages.Page.Frontend
import DocPages.Proofs.Build.Separate
import DocPages.Proofs.Json.PageData
/-! # What a build leaves behind

A build whose document cannot be made touches nothing.  One that succeeds changes no file but its own two
and leaves everything such that it would write what is there already (`Settled`), so a second run
changes nothing at all (`run_frame`).  A build stays settled while other files are written
(`Settled.frame`), so of several builds that write different files a repeated one may be left out
(`leads_eraseDups_iff`). -/
set_option autoImplicit false
namespace DocPages.PageBuild

/-! ## Builds that fail before they write -/

section Errors
variable {b : PageBuild}

theorem run_of_render_error {e : BuildError} (failed : b.render = .error e) (files : FileSystem) :
    b.run files = (.error e, files) := by
  rw [run, runOn_of_render_error failed]
  cases e <;> rfl

theorem render_of_page_error {e : PageError} (failed : b.page.render b.context = .error e) :
    b.render = .error (.page e) := by
  rw [render, document, failed]
  rfl

theorem render_of_markup_error {tree : Node} {e : Markup.Error}
    (rendered : b.page.render b.context = .ok tree) (failed : Markup.render tree = .error e) :
    b.render = .error (.markup e) := by
  simp only [render, document, rendered, bind, Except.bind, Action.mapError_ok, failed]
  rfl

theorem os_of_run_error {html : String} (rendered : b.render = .ok html) {files after : FileSystem}
    {e : BuildError} (failed : b.run files = (.error e, after)) : ∃ o, e = .os o := by
  obtain ⟨o, stopped, _⟩ := stop_of_runOn rendered failed
  exact ⟨o, stopped⟩

end Errors

/-! ## Settled builds -/

/-- The directory of a build is there and its files hold what it would write, so far as the document
was not written over with the data. -/
structure Settled (files : FileSystem) (b : PageBuild) : Prop where
  directory : files.isDirectory b.outputPath.parent = true
  document : ∃ html, b.render = .ok html ∧
    (files.locate b.outputPath ≠ files.locate (b.dataPath b.outputPath.parent) →
      files.read b.outputPath = .ok html.toUTF8)
  data : files.read (b.dataPath b.outputPath.parent) = .ok b.data.toUTF8

namespace Settled
variable {files after : FileSystem} {b b' : PageBuild}

theorem run (settled : Settled files b) : b.run files = (.ok b.outputPath, files) := by
  obtain ⟨html, rendered, document⟩ := settled.document
  have directories : Disk.makeDirectories b.outputPath.parent files = (.ok (), files) :=
    FileSystem.makeDirectories_of_isDirectory settled.directory
  by_cases same : files.locate b.outputPath = files.locate (b.dataPath b.outputPath.parent)
  · obtain ⟨first, there, back⟩ := Disk.writeFile_back html settled.data same
    exact run_of_steps rendered directories there back
  · exact run_of_steps rendered directories (Disk.writeFile_of_read (document same))
      (Disk.writeFile_of_read settled.data)

theorem locate (settled : Settled files b) :
    files.locate b.outputPath = .ok (b.outputPath.location files.working) ∧
      files.locate (b.dataPath b.outputPath.parent) =
        .ok ((b.dataPath b.outputPath.parent).location files.working) := by
  obtain ⟨html, _, document⟩ := settled.document
  obtain ⟨loc, located, _⟩ := FileSystem.read_eq_ok_iff.1 settled.data
  rw [← FileSystem.locate_eq_location located, located]
  refine ⟨?_, rfl⟩
  by_cases same : files.locate b.outputPath = files.locate (b.dataPath b.outputPath.parent)
  · rw [located] at same
    rw [same, ← FileSystem.locate_eq_location same]
  · obtain ⟨place, found, _⟩ := FileSystem.read_eq_ok_iff.1 (document same)
    rw [found, ← FileSystem.locate_eq_location found]

theorem frame {written : List Location} (settled : Settled files b)
    (frame : FileSystem.Frame written files after)
    (apart : List.Disjoint (b.places files.working) written) : Settled after b := by
  obtain ⟨html, rendered, document⟩ := settled.document
  have located := settled.locate
  have untouched := List.disjoint_left.1 apart
  constructor
  case directory => exact FileSystem.isDirectory_of_frame frame settled.directory
  case document =>
    refine ⟨html, rendered, ?_⟩
    intro unlike
    have unlike' : files.locate b.outputPath ≠ files.locate (b.dataPath b.outputPath.parent) := by
      intro same
      rw [frame.locate located.1, frame.locate located.2, ← located.1, ← located.2] at unlike
      exact unlike same
    exact frame.read (document unlike') (untouched (by simp [places]))
  case data => exact frame.read settled.data (untouched (by simp [places]))

end Settled

section Runs
variable {files after : FileSystem} {path : Path} {b b' : PageBuild}

theorem frame_of_run (ran : b.run files = (.ok path, after)) :
    FileSystem.Frame (b.places files.working) files after := by
  obtain ⟨_, ⟨html, rendered⟩, wrote⟩ := wrote_of_run ran
  have frame := wrote.frame
  rw [written_eq rendered] at frame
  exact frame

theorem settled_of_run (ran : b.run files = (.ok path, after)) : Settled after b := by
  obtain ⟨_, html, made, first, rendered, directories, document, data⟩ := run_eq_ok ran
  have frame := FileSystem.Frame.withFile document
  have frame' := FileSystem.Frame.withFile data
  constructor
  case directory =>
    have there := FileSystem.isDirectory_of_makeDirectories directories
    exact FileSystem.isDirectory_of_frame frame' (FileSystem.isDirectory_of_frame frame there)
  case document =>
    refine ⟨html, rendered, ?_⟩
    intro unlike
    have there := FileSystem.read_withFile document
    obtain ⟨loc, located, _⟩ := FileSystem.read_eq_ok_iff.1 there
    obtain ⟨loc', located', _⟩ := FileSystem.withFile_eq_ok data
    refine frame'.read there ?_
    rw [frame'.locate located, frame'.locate located'] at unlike
    rw [List.mem_singleton, ← FileSystem.locate_eq_location located,
      ← FileSystem.locate_eq_location located']
    exact fun same => unlike (congrArg Except.ok same)
  case data => exact FileSystem.read_withFile data

theorem Settled.run_other (settled : Settled files b) (ran : b'.run files = (.ok path, after))
    (apart : List.Disjoint (b.places files.working) (b'.places files.working)) : Settled after b :=
  settled.frame (frame_of_run ran) apart

end Runs

/-! ## Builds that are run more than once -/

/-- The builds succeed in this order and lead from the one file system to the other. -/
def Leads (builds : List PageBuild) (files after : FileSystem) : Prop :=
  ∃ paths, runAll builds files = (.ok paths, after)

section Repeats
variable {files middle after : FileSystem}

theorem leads_nil : Leads [] files after ↔ after = files := by
  constructor
  · rintro ⟨paths, ran⟩
    rw [runAll, List.mapM_nil] at ran
    exact (Action.pure_eq_ok ran).2
  · rintro rfl
    exact ⟨[], rfl⟩

theorem leads_cons {b : PageBuild} {builds : List PageBuild} :
    Leads (b :: builds) files after ↔
      ∃ middle, b.run files = (.ok b.outputPath, middle) ∧ Leads builds middle after := by
  constructor
  · rintro ⟨paths, ran⟩
    rw [runAll, List.mapM_cons] at ran
    obtain ⟨path, middle, first, ran⟩ := Action.bind_eq_ok ran
    obtain ⟨later, _, rest, finished⟩ := Action.bind_eq_ok ran
    obtain ⟨_, rfl⟩ := Action.pure_eq_ok finished
    rw [(run_eq_ok first).1] at first
    exact ⟨middle, first, later, rest⟩
  · rintro ⟨middle, first, later, rest⟩
    refine ⟨b.outputPath :: later, ?_⟩
    rw [runAll] at rest ⊢
    rw [List.mapM_cons, Action.bind_of_ok first, Action.bind_of_ok rest]
    rfl

variable {α : Type} [DecidableEq α] {make : α → PageBuild}

theorem leads_filter_iff {a : α} {as : List α} (settled : Settled files (make a))
    (apart : ∀ a' ∈ as, a' ≠ a → ∀ working,
      List.Disjoint ((make a).places working) ((make a').places working)) :
    Leads ((as.filter fun a' => !a' == a).map make) files after ↔ Leads (as.map make) files after := by
  induction as generalizing files with
  | nil => exact Iff.rfl
  | cons first rest ih =>
    have later := fun middle (still : Settled middle (make a)) =>
      ih still fun a' mem => apart a' (List.mem_cons_of_mem _ mem)
    by_cases same : first = a
    · have dropped : (first :: rest).filter (fun a' => !a' == a) = rest.filter fun a' => !a' == a :=
        List.filter_cons_of_neg (by simp [same])
      rw [dropped, later files settled, List.map_cons, leads_cons, same]
      constructor
      · intro leads
        exact ⟨files, settled.run, leads⟩
      · rintro ⟨middle, ran, leads⟩
        rw [settled.run] at ran
        cases ran
        exact leads
    · have stays : (first :: rest).filter (fun a' => !a' == a) =
          first :: rest.filter fun a' => !a' == a := List.filter_cons_of_pos (by simp [same])
      rw [stays, List.map_cons, List.map_cons, leads_cons, leads_cons]
      have still : ∀ middle, (make first).run files = (.ok (make first).outputPath, middle) →
          Settled middle (make a) := fun middle ran =>
        settled.run_other ran (apart first List.mem_cons_self same files.working)
      constructor
      · rintro ⟨middle, ran, leads⟩
        exact ⟨middle, ran, (later middle (still middle ran)).1 leads⟩
      · rintro ⟨middle, ran, leads⟩
        exact ⟨middle, ran, (later middle (still middle ran)).2 leads⟩

/-- Where different builds write different files, running each one once is enough. -/
theorem leads_eraseDups_iff {as : List α}
    (apart : ∀ a ∈ as, ∀ a' ∈ as, a' ≠ a → ∀ working,
      List.Disjoint ((make a).places working) ((make a').places working)) :
    Leads (as.eraseDups.map make) files after ↔ Leads (as.map make) files after := by
  -- the rest without the first element may be shorter than the rest, so the induction is on the length
  induction size : as.length using Nat.strongRecOn generalizing as files with
  | ind n ih =>
    cases as with
    | nil => exact Iff.rfl
    | cons a rest =>
      rw [List.eraseDups_cons, List.map_cons, List.map_cons, leads_cons, leads_cons]
      have others : ∀ a' ∈ rest.filter (fun a' => !a' == a), a' ∈ a :: rest := fun a' mem =>
        List.mem_cons_of_mem _ (List.mem_of_mem_filter mem)
      have shorter : (rest.filter fun a' => !a' == a).length < n := by
        rw [← size, List.length_cons]
        exact Nat.lt_succ_of_le (List.length_filter_le _ _)
      have step : ∀ middle, (make a).run files = (.ok (make a).outputPath, middle) →
          (Leads ((rest.filter fun a' => !a' == a).eraseDups.map make) middle after ↔
            Leads (rest.map make) middle after) := by
        intro middle ran
        rw [ih _ shorter (fun x mem y mem' => apart x (others x mem) y (others y mem')) rfl]
        apply leads_filter_iff (settled_of_run ran)
        intro a' mem
        exact apart a List.mem_cons_self a' (List.mem_cons_of_mem _ mem)
      constructor
      · rintro ⟨middle, ran, leads⟩
        exact ⟨middle, ran, (step middle ran).1 leads⟩
      · rintro ⟨middle, ran, leads⟩
        exact ⟨middle, ran, (step middle ran).2 leads⟩

end Repeats

/-- What a run of a build does to the files: nothing if the page or its markup fails.  If it succeeds,
both of its files are there, unless they are one, every other file is as before, and a second run
changes nothing. -/
theorem run_frame (b : PageBuild) (files : FileSystem) :
    (∀ e, b.page.render b.context = .error e → b.run files = (.error (.page e), files)) ∧
    (∀ tree e, b.page.render b.context = .ok tree → Markup.render tree = .error e →
      b.run files = (.error (.markup e), files)) ∧
    ∀ path after, b.run files = (.ok path, after) →
      path = b.outputPath ∧
      after.read (b.outputPath.parent.join
          (.ofString (".rport-pages-" ++ b.page.key ++ "-data.json"))) =
        .ok (Json.document b.page.descriptor.toData).toUTF8 ∧
      (Json.ExactEntries b.page.descriptor.frontmatter.entries →
        Json.read (Json.document b.page.descriptor.toData) = some b.page.descriptor.toData) ∧
      (∃ html, b.render = .ok html ∧
        (after.locate b.outputPath ≠ after.locate (b.dataPath b.outputPath.parent) →
          after.read b.outputPath = .ok html.toUTF8)) ∧
      (∀ loc content, after.locate b.outputPath ≠ .ok loc →
        after.locate (b.dataPath b.outputPath.parent) ≠ .ok loc →
        (after.at? loc = some (.file content) ↔ files.at? loc = some (.file content))) ∧
      b.run after = (.ok path, after) := by
  refine ⟨?page, ?markup, ?success⟩
  case page =>
    intro e failed
    exact run_of_render_error (render_of_page_error failed) files
  case markup =>
    intro tree e rendered failed
    exact run_of_render_error (render_of_markup_error rendered failed) files
  case success =>
    intro path after ran
    have frame := frame_of_run ran
    have settled := settled_of_run ran
    have located := settled.locate
    obtain ⟨finished, _⟩ := run_eq_ok ran
    refine ⟨finished, settled.data, read_data, settled.document, ?_, ?_⟩
    · intro loc content document data
      rw [located.1, frame.working] at document
      rw [located.2, frame.working] at data
      apply frame.files loc content
      intro mem
      rcases List.mem_pair.1 mem with rfl | rfl
      · exact document rfl
      · exact data rfl
    · rw [finished]
      exact settled.run

/-- A route that leads through a directory that has to be made, the same page without the component
that it asks for, and with a number in place of a node. -/
theorem run_frame_detour :
    let start := FileSystem.new []
    let b := blank "k" "/a/../index.html"
    let lone := { b with page := { b.page with render := Frontend.render } }
    let odd := { b with page := { b.page with
      render := fun _ => .ok (.element "p" [] [.foreign (.int 1)]) } }
    (lone.page.render lone.context = .error (.component ⟨"OutboundLink", []⟩) ∧
      lone.run start = (.error (.page (.component ⟨"OutboundLink", []⟩)), start)) ∧
    (odd.page.render odd.context = .ok (.element "p" [] [.foreign (.int 1)]) ∧
      Markup.render (.element "p" [] [.foreign (.int 1)]) = .error (.notANode "int") ∧
      odd.run start = (.error (.markup (.notANode "int")), start)) ∧
    ∃ html after, b.run start = (.ok b.outputPath, after) ∧ b.render = .ok html ∧
      after.read b.outputPath = .ok html.toUTF8 ∧
      after.read (.ofString "a/../.rport-pages-k-data.json") =
        .ok (Json.document b.page.descriptor.toData).toUTF8 ∧
      Json.read (Json.document b.page.descriptor.toData) = some b.page.descriptor.toData ∧
      b.run after = (.ok b.outputPath, after) := by
  intro start b lone odd
  have lacks : lone.page.render lone.context = .error (.component ⟨"OutboundLink", []⟩) := rfl
  have serializes : Markup.render (.element "p" [] [.foreign (.int 1)]) =
      .error (.notANode "int") := by decide +kernel
  obtain ⟨made, directories, ready⟩ : ∃ made,
      Disk.makeDirectories b.outputPath.parent start = (.ok (), made) ∧ Ready made b := by
    have outer : start.locate b.outputPath.parent.parent = .ok ["a"] := by decide +kernel
    have inner : start.locate b.outputPath.parent = .error .missing := by decide +kernel
    have free : ∀ name, name ≠ "a" → (start.set ["a"] .directory).at? [name] ≠ some .directory := by
      intro name other
      rw [FileSystem.at?_set, if_neg (by simp), if_neg (by simpa using other),
        FileSystem.at?_new (by simp)]
      exact (Option.some_ne_none _).symm
    refine ⟨start.set ["a"] .directory, ?_, render_blank _ _, by decide +kernel, ?_, ?_⟩
    · refine FileSystem.makeDirectories_of_parent inner (by decide +kernel) ?_ (by decide +kernel)
      exact FileSystem.makeDirectories_of_free outer (FileSystem.at?_new (by simp))
    · exact ⟨["index.html"], by decide +kernel, free _ (by decide)⟩
    · exact ⟨[".rport-pages-k-data.json"], by decide +kernel, free _ (by decide)⟩
  obtain ⟨after, ran, _⟩ := ready.run_of_made directories
  obtain ⟨_, data, payload, ⟨html, rendered, document⟩, _, again⟩ :=
    (run_frame b start).2.2 _ after ran
  have beside : b.outputPath.parent.join
      (.ofString (".rport-pages-" ++ b.page.key ++ "-data.json")) =
        .ofString "a/../.rport-pages-k-data.json" := by decide +kernel
  rw [beside] at data
  have apart : after.locate b.outputPath ≠ after.locate (b.dataPath b.outputPath.parent) := by
    have located := (settled_of_run ran).locate
    rw [located.1, located.2, (frame_of_run ran).working]
    decide +kernel
  exact ⟨⟨lacks, (run_frame lone start).1 _ lacks⟩,
    ⟨rfl, serializes, (run_frame odd start).2.1 _ _ rfl serializes⟩,
    html, after, ran, rendered, document apart, data, payload trivial, again⟩

end DocPages.PageBuild
