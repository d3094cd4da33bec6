import Mathlib.Data.List.Nodup
import DocPages.Proofs.Build.Run
import DocPages.Proofs.Document.Unique
import DocPages.Proofs.Page.Index
import DocPages.Proofs.Path.Names
/-! # Files of the pages of an index

An index keeps keys and routes apart, but not the files that are written for them: two routes may be
spellings of one path, and a route may be that of a data file.  What a file holds after a run is the text
that was written to it last (`files_hold_last_texts`).  Plain routes are spelled in one way only, so
the pages of an index that have them keep their files as long as no document is written to the path of a
data file. -/
set_option autoImplicit false
namespace DocPages.PageBuild

open FileSystem (Wrote)

/-- The document of a build is there, and its data file holds the payload of the page. -/
def Kept (b : PageBuild) (files : FileSystem) : Prop :=
  (∃ html, b.render = .ok html ∧ files.read b.outputPath = .ok html.toUTF8) ∧
    files.read (b.dataPath b.outputPath.parent) =
      .ok (Json.document b.page.descriptor.toData).toUTF8

def places (b : PageBuild) (working : Location) : List Location :=
  [b.outputPath.location working, (b.dataPath b.outputPath.parent).location working]

/-- One slash and then names, none of which leads upwards, with a slash between them. -/
def IsPlain (route : String) : Prop :=
  ∃ names, names ≠ [] ∧ (∀ name ∈ names, IsName name.toList ∧ name ≠ "..") ∧
    route = "/" ++ String.intercalate "/" names

section Plain
variable {b : PageBuild}

theorem IsPlain.names {route : String} (plain : IsPlain route) :
    Path.namesOf route.toList ≠ [] ∧ ".." ∉ Path.namesOf route.toList ∧
      route = "/" ++ String.intercalate "/" (Path.namesOf route.toList) := by
  obtain ⟨names, nonempty, proper, spelled⟩ := plain
  have read : Path.namesOf route.toList = names := by
    rw [spelled, String.toList_append]
    exact (Path.namesOf_cons_slash _).trans
      (Path.namesOf_intercalate fun name mem => (proper name mem).1)
  rw [read]
  exact ⟨nonempty, fun up => (proper ".." up).2 rfl, spelled⟩

theorem names_outputPath (b : PageBuild) :
    b.outputPath.names = b.outputDir.names ++ Path.namesOf b.page.descriptor.path.toList := by
  rw [outputPath, Path.names_join (Path.root_ofRoute _), Path.names_ofRoute]

theorem root_outputPath (b : PageBuild) : b.outputPath.root = b.outputDir.root :=
  Path.root_join (Path.root_ofRoute _)

theorem toList_dataName (b : PageBuild) :
    b.dataName.toList = ".rport-pages-".toList ++ b.page.key.toList ++ "-data.json".toList := by
  change (".rport-pages-" ++ b.page.key ++ "-data.json").toList = _
  rw [String.toList_append, String.toList_append]

theorem isName_dataName (single : '/' ∉ b.page.key.toList) : IsName b.dataName.toList := by
  rw [toList_dataName]
  refine ⟨by simp, by simp, ?_⟩
  simp only [List.mem_append, not_or]
  exact ⟨⟨by simp, single⟩, by simp⟩

theorem dataName_ne_up (b : PageBuild) : b.dataName ≠ ".." := by
  intro same
  have chars := congrArg String.toList same
  rw [toList_dataName] at chars
  simp at chars

theorem key_eq_of_dataName_eq {b' : PageBuild} (same : b.dataName = b'.dataName) :
    b.page.key = b'.page.key := by
  have chars := congrArg String.toList same
  rw [toList_dataName, toList_dataName] at chars
  exact String.toList_inj.1 (List.append_cancel_left (List.append_cancel_right chars))

theorem root_ofString_dataName (b : PageBuild) : (Path.ofString b.dataName).root = .none := by
  have dot : ∃ rest, b.dataName.toList = '.' :: rest := by
    rw [toList_dataName, List.append_assoc]
    simp
  obtain ⟨rest, chars⟩ := dot
  rw [Path.root_ofString, chars]
  exact Path.rootOf_cons_of_ne rest (by decide)

theorem root_dataPath (b : PageBuild) :
    (b.dataPath b.outputPath.parent).root = b.outputDir.root := by
  rw [dataPath, Path.root_join (root_ofString_dataName b), Path.root_parent, root_outputPath]

theorem names_dataPath (plain : IsPlain b.page.descriptor.path) (single : '/' ∉ b.page.key.toList) :
    (b.dataPath b.outputPath.parent).names =
      b.outputDir.names ++ ((Path.namesOf b.page.descriptor.path.toList).dropLast ++ [b.dataName]) := by
  have name : (Path.ofString b.dataName).names = [b.dataName] := by
    rw [Path.names_ofString, Path.namesOf_name (isName_dataName single)]
  rw [dataPath, Path.names_join (root_ofString_dataName b), name, Path.names_parent, names_outputPath,
    List.dropLast_append_of_ne_nil plain.names.1, List.append_assoc]

theorem location_outputPath (plain : IsPlain b.page.descriptor.path) (working : Location) :
    b.outputPath.location working =
      b.outputDir.location working ++ Path.namesOf b.page.descriptor.path.toList :=
  Path.location_of_down (root_outputPath b) (names_outputPath b) plain.names.2.1 working

theorem location_dataPath (plain : IsPlain b.page.descriptor.path)
    (single : '/' ∉ b.page.key.toList) (working : Location) :
    (b.dataPath b.outputPath.parent).location working =
      b.outputDir.location working ++
        ((Path.namesOf b.page.descriptor.path.toList).dropLast ++ [b.dataName]) := by
  refine Path.location_of_down (root_dataPath b) (names_dataPath plain single) ?_ working
  rw [List.mem_append, List.mem_singleton, not_or]
  exact ⟨fun mem => plain.names.2.1 ((List.dropLast_sublist _).subset mem), Ne.symm (dataName_ne_up b)⟩

end Plain

section Pair
variable {b b' : PageBuild} {working : Location}

/-- On plain routes a document and a data file are one file only if their paths are the same. -/
theorem document_ne_data (dir : b.outputDir = b'.outputDir) (plain : IsPlain b.page.descriptor.path)
    (plain' : IsPlain b'.page.descriptor.path) (single' : '/' ∉ b'.page.key.toList)
    (apart : b.outputPath ≠ b'.dataPath b'.outputPath.parent) :
    b.outputPath.location working ≠ (b'.dataPath b'.outputPath.parent).location working := by
  intro same
  rw [location_outputPath plain, location_dataPath plain' single', dir] at same
  have names := List.append_cancel_left same
  apply apart
  apply Path.eq_of_names
  · rw [root_outputPath, root_dataPath, dir]
  · rw [names_outputPath, names_dataPath plain' single', names, dir]

theorem disjoint_places (dir : b.outputDir = b'.outputDir)
    (plain : IsPlain b.page.descriptor.path) (plain' : IsPlain b'.page.descriptor.path)
    (single : '/' ∉ b.page.key.toList) (single' : '/' ∉ b'.page.key.toList)
    (apart : b.outputPath ≠ b'.dataPath b'.outputPath.parent)
    (apart' : b'.outputPath ≠ b.dataPath b.outputPath.parent) (keys : b.page.key ≠ b'.page.key)
    (routes : b.page.descriptor.path ≠ b'.page.descriptor.path) :
    List.Disjoint (b.places working) (b'.places working) := by
  have documents : b.outputPath.location working ≠ b'.outputPath.location working := by
    intro same
    rw [location_outputPath plain, location_outputPath plain', dir] at same
    apply routes
    rw [plain.names.2.2, plain'.names.2.2, List.append_cancel_left same]
  have data : (b.dataPath b.outputPath.parent).location working ≠
      (b'.dataPath b'.outputPath.parent).location working := by
    intro same
    rw [location_dataPath plain single, location_dataPath plain' single', dir] at same
    have last := (List.append_inj' (List.append_cancel_left same) rfl).2
    exact keys (key_eq_of_dataName_eq (List.singleton_inj.1 last))
  have crossed : b.outputPath.location working ≠
      (b'.dataPath b'.outputPath.parent).location working :=
    document_ne_data dir plain plain' single' apart
  have crossed' : b'.outputPath.location working ≠
      (b.dataPath b.outputPath.parent).location working :=
    document_ne_data dir.symm plain' plain single apart'
  rw [places, places, List.disjoint_cons_left, List.disjoint_cons_left]
  simp [documents, data, crossed, Ne.symm crossed']

end Pair

theorem nodup_places {builds : List PageBuild} {outputDir : Path} {working : Location}
    (into : ∀ b ∈ builds, b.outputDir = outputDir)
    (plain : ∀ b ∈ builds, IsPlain b.page.descriptor.path)
    (single : ∀ b ∈ builds, '/' ∉ b.page.key.toList)
    (apart : ∀ b ∈ builds, ∀ b' ∈ builds, b.outputPath ≠ b'.dataPath b'.outputPath.parent)
    (keys : builds.Pairwise fun b b' => b.page.key ≠ b'.page.key)
    (routes : builds.Pairwise fun b b' => b.page.descriptor.path ≠ b'.page.descriptor.path) :
    (builds.flatMap fun b => b.places working).Nodup := by
  rw [List.nodup_flatMap]
  constructor
  · intro b mem
    have own : b.outputPath.location working ≠ (b.dataPath b.outputPath.parent).location working :=
      document_ne_data rfl (plain b mem) (plain b mem) (single b mem) (apart b mem b mem)
    simp [places, own]
  · refine (keys.and routes).imp_of_mem ?_
    rintro b b' mem mem' ⟨key, route⟩
    exact disjoint_places ((into b mem).trans (into b' mem').symm) (plain b mem) (plain b' mem')
      (single b mem) (single b' mem') (apart b mem b' mem') (apart b' mem' b mem) key route

theorem map_location_written {builds : List PageBuild} (working : Location)
    (rendered : ∀ b ∈ builds, ∃ html, b.render = .ok html) :
    (builds.flatMap written).map (fun w => w.1.location working) =
      builds.flatMap fun b => b.places working := by
  rw [List.map_flatMap]
  refine List.flatMap_congr fun b mem => ?_
  obtain ⟨html, renders⟩ := rendered b mem
  rw [written_eq renders]
  simp only [List.map_cons, List.map_nil, places]

theorem kept_of_nodup {builds : List PageBuild} {files after : FileSystem}
    (rendered : ∀ b ∈ builds, ∃ html, b.render = .ok html)
    (wrote : Wrote files (builds.flatMap written) after)
    (distinct : (builds.flatMap fun b => b.places files.working).Nodup) {b : PageBuild}
    (mem : b ∈ builds) : b.Kept after := by
  rw [← map_location_written files.working rendered] at distinct
  obtain ⟨html, renders⟩ := rendered b mem
  have all : ∀ w ∈ b.written, after.read w.1 = .ok w.2.toUTF8 := fun w own =>
    wrote.read_of_nodup distinct (List.mem_flatMap_of_mem mem own)
  rw [written_eq renders] at all
  simp only [List.forall_mem_cons] at all
  exact ⟨⟨html, renders, all.1⟩, all.2.1⟩

/-- A run of the pages of an index in one directory leaves in each file what was written last to its
location. -/
theorem files_hold_last_texts (pages : List Page) (index : PageIndex)
    (indexed : PageIndex.ofPages pages = .ok index) (outputDir : Path) (builds : List PageBuild)
    (listed : builds.map page = index.pages) (into : ∀ b ∈ builds, b.outputDir = outputDir)
    (files after : FileSystem) (paths : List Path)
    (ran : runAll builds files = (.ok paths, after)) :
    (∀ before q text later, builds.flatMap written = before ++ (q, text) :: later →
      (∀ w ∈ later, w.1.location files.working ≠ q.location files.working) →
      ∀ w ∈ builds.flatMap written, w.1.location files.working = q.location files.working →
        after.read w.1 = .ok text.toUTF8) ∧
    ((builds.flatMap fun b => b.places files.working).Nodup → ∀ b ∈ builds, b.Kept after) ∧
    ((∀ p ∈ pages, IsPlain p.descriptor.path ∧ '/' ∉ p.key.toList) →
      (∀ b ∈ builds, ∀ b' ∈ builds, b.outputPath ≠ b'.dataPath b'.outputPath.parent) →
      ∀ b ∈ builds, b.Kept after) := by
  obtain ⟨_, rendered, wrote⟩ := wrote_of_runAll ran
  have holds := PageIndex.holds_of_ofPages indexed
  have listed : builds.map page = pages := listed.trans holds.byKey.values_eq
  refine ⟨?last, kept_of_nodup rendered wrote, ?plain⟩
  case last =>
    intro before q text later split last w mem same
    have located := wrote.locate mem
    rw [same] at located
    rw [split] at wrote
    exact wrote.read_last last located
  case plain =>
    intro plain apart
    have listedPage : ∀ b ∈ builds, b.page ∈ pages := by
      intro b mem
      rw [← listed]
      exact List.mem_map_of_mem mem
    have keys := holds.byKey.nodup
    have routes := holds.byPath.nodup
    rw [← listed, List.map_map, List.Nodup, List.pairwise_map] at keys routes
    exact fun b mem => kept_of_nodup rendered wrote
      (nodup_places into (fun b mem => (plain _ (listedPage b mem)).1)
        (fun b mem => (plain _ (listedPage b mem)).2) apart keys routes) mem

/-! ## Pages without content -/

/-- The build of a page that has nothing but a key, a route and a title, into the working directory. -/
def blank (key route : String) : PageBuild :=
  ⟨⟨0, ⟨⟨key, route, "T", "en", .empty, "", [], ""⟩, List.nodup_nil⟩,
    fun _ => .ok (.fragment [])⟩, {}, .empty, .ofString ".", ⟨2024, 1, 2, 3, 4, 5, 0⟩⟩

theorem render_blank (key route : String) : ∃ html, (blank key route).render = .ok html :=
  ⟨_, render_eq_write rfl rfl⟩

theorem writable_new {p : Path} {loc : Location}
    (located : (FileSystem.new []).locate p = .ok loc) (below : loc ≠ []) :
    Writable (FileSystem.new []) p := by
  refine ⟨loc, located, ?_⟩
  rw [FileSystem.at?_new below]
  exact (Option.some_ne_none _).symm

/-- A page with a plain route beside one whose route resembles that of its data file. -/
theorem files_hold_last_texts_resembling :
    let b := blank "a" "/index.html"
    let b' := blank "b" "/.rport-pages-a-data.html"
    ∃ index after, PageIndex.ofPages [b.page, b'.page] = .ok index ∧
      [b, b'].map page = index.pages ∧ (∀ c ∈ [b, b'], c.outputDir = .ofString ".") ∧
      runAll [b, b'] (FileSystem.new []) = (.ok [b.outputPath, b'.outputPath], after) ∧
      (∀ p ∈ [b.page, b'.page], IsPlain p.descriptor.path ∧ '/' ∉ p.key.toList) ∧
      (∀ c ∈ [b, b'], ∀ c' ∈ [b, b'], c.outputPath ≠ c'.dataPath c'.outputPath.parent) ∧
      b.Kept after ∧ b'.Kept after := by
  intro b b'
  have document : (FileSystem.new []).locate b.outputPath = .ok ["index.html"] := by
    decide +kernel
  have data : (FileSystem.new []).locate (b.dataPath b.outputPath.parent) =
      .ok [".rport-pages-a-data.json"] := by decide +kernel
  have document' : (FileSystem.new []).locate b'.outputPath =
      .ok [".rport-pages-a-data.html"] := by decide +kernel
  have data' : (FileSystem.new []).locate (b'.dataPath b'.outputPath.parent) =
      .ok [".rport-pages-b-data.json"] := by decide +kernel
  have ready : ∀ c ∈ [b, b'], Ready (FileSystem.new []) c := by
    intro c mem
    rcases List.mem_pair.1 mem with rfl | rfl
    · exact ⟨render_blank _ _, by decide +kernel, writable_new document (by simp),
        writable_new data (by simp)⟩
    · exact ⟨render_blank _ _, by decide +kernel, writable_new document' (by simp),
        writable_new data' (by simp)⟩
  have into : ∀ c ∈ [b, b'], c.outputDir = .ofString "." := by
    intro c mem
    rcases List.mem_pair.1 mem with rfl | rfl <;> rfl
  have plain : ∀ p ∈ [b.page, b'.page], IsPlain p.descriptor.path ∧ '/' ∉ p.key.toList := by
    intro p mem
    rcases List.mem_pair.1 mem with rfl | rfl
    · exact ⟨⟨["index.html"], by simp, by decide +kernel, by decide +kernel⟩, by decide +kernel⟩
    · exact ⟨⟨[".rport-pages-a-data.html"], by simp, by decide +kernel, by decide +kernel⟩,
        by decide +kernel⟩
  have apart : ∀ c ∈ [b, b'], ∀ c' ∈ [b, b'], c.outputPath ≠ c'.dataPath c'.outputPath.parent := by
    decide +kernel
  obtain ⟨after, ran⟩ := runAll_of_ready ready
  obtain ⟨index, indexed⟩ : ∃ index, PageIndex.ofPages [b.page, b'.page] = .ok index := ⟨_, rfl⟩
  have listed : [b, b'].map page = index.pages :=
    (PageIndex.holds_of_ofPages indexed).byKey.values_eq.symm
  have kept := (files_hold_last_texts _ index indexed (.ofString ".") [b, b'] listed into _ after _
    ran).2.2 plain apart
  exact ⟨index, after, indexed, listed, into, ran, plain, apart, kept b (by simp), kept b' (by simp)⟩

/-! ## Data in place of a document -/

theorem head?_opening (d : Document) (rest : List Char) :
    (d.opening ++ rest).head? = some '<' := by
  have first : "<!DOCTYPE html>\n<html lang=\"".toList.head? = some '<' := by simp
  unfold Document.opening
  simp only [List.append_assoc]
  rw [List.head?_append, first, Option.some_or]

theorem head?_data (b : PageBuild) : b.data.toList.head? = some '\x7b' := by
  rw [data, Json.document, String.toList_ofList, Descriptor.toData, Json.write]
  simp

theorem write_ne_data (d : Document) (b : PageBuild) : d.write ≠ b.data := by
  intro same
  have chars : d.opening ++ (d.content.toList ++ d.ending) = b.data.toList := by
    rw [← same, Document.write, String.toList_ofList, Document.chars, List.append_assoc]
  have first := head?_opening d (d.content.toList ++ d.ending)
  rw [chars, head?_data] at first
  cases first

theorem document_replaced {b : PageBuild} {files after : FileSystem} {path : Path} {html : String}
    (same : b.dataPath b.outputPath.parent = b.outputPath) (rendered : b.render = .ok html)
    (ran : b.run files = (.ok path, after)) :
    after.read b.outputPath = .ok b.data.toUTF8 ∧ after.read b.outputPath ≠ .ok html.toUTF8 := by
  obtain ⟨_, _, wrote⟩ := wrote_of_run ran
  rw [written_eq rendered] at wrote
  have located := wrote.locate (List.mem_cons_of_mem _ List.mem_cons_self)
  dsimp only at located
  have last : Wrote files
      ([(b.outputPath, html)] ++ (b.dataPath b.outputPath.parent, b.data) :: []) after := wrote
  have read := last.read_last (by simp) located
  rw [same] at read
  refine ⟨read, fun document => ?_⟩
  obtain ⟨d, _, written⟩ := document_of_render rendered
  rw [read, Except.ok.injEq, String.toUTF8_eq_toByteArray, String.toUTF8_eq_toByteArray,
    String.toByteArray_inj, written] at document
  exact write_ne_data d b document.symm

/-- An index takes a page whose route is that of its own data file, and the page is built, but its
document is lost. -/
theorem document_lost :
    let b := blank "k" "/.rport-pages-k-data.json"
    ∃ index html after, PageIndex.ofPages [b.page] = .ok index ∧ [b].map page = index.pages ∧
      runAll [b] (FileSystem.new []) = (.ok [b.outputPath], after) ∧ b.render = .ok html ∧
      after.read b.outputPath = .ok b.data.toUTF8 ∧ after.read b.outputPath ≠ .ok html.toUTF8 := by
  intro b
  obtain ⟨html, rendered⟩ := render_blank "k" "/.rport-pages-k-data.json"
  have same : b.dataPath b.outputPath.parent = b.outputPath := by decide +kernel
  have located : (FileSystem.new []).locate b.outputPath = .ok [".rport-pages-k-data.json"] := by
    decide +kernel
  have writable := writable_new located (by simp)
  have ready : Ready (FileSystem.new []) b :=
    ⟨⟨html, rendered⟩, by decide +kernel, writable, by rwa [same]⟩
  obtain ⟨after, ran, _⟩ := ready.run
  obtain ⟨read, lost⟩ := document_replaced same rendered ran
  have ranAll : runAll [b] (FileSystem.new []) = (.ok [b.outputPath], after) := by
    rw [runAll, List.mapM_cons, Action.bind_of_ok ran]
    rfl
  exact ⟨_, html, after, rfl, rfl, ranAll, rendered, read, lost⟩

end DocPages.PageBuild
