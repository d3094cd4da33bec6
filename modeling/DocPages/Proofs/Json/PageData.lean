import DocPages.Proofs.Build.Run
import DocPages.Proofs.Json.RoundTrip
import DocPages.Proofs.Page.Recovery
/-! # Data files

A data file holds the payload of a descriptor as JSON.  The outline and the fields consist of strings,
integers, lists and mappings, so the file is exact as soon as the frontmatter is, and reading it gives
the payload, and from the payload the descriptor. -/
set_option autoImplicit false
namespace DocPages

open Json (Exact ExactItems ExactEntries)

mutual
theorem Header.exact_toData : ∀ h : Header, Exact h.toData
  | ⟨level, title, slug, children⟩ => by
    rw [Header.toData]
    exact ⟨trivial, trivial, trivial, Header.exact_toDataAll children, trivial⟩

theorem Header.exact_toDataAll : ∀ forest : List Header, ExactItems (Header.toDataAll forest)
  | [] => trivial
  | h :: hs => ⟨Header.exact_toData h, Header.exact_toDataAll hs⟩
end

theorem Descriptor.exact_toData {d : Descriptor} (exact : ExactEntries d.frontmatter.entries) :
    Exact d.toData :=
  ⟨trivial, trivial, trivial, trivial, exact, trivial, Header.exact_toDataAll d.headers, trivial,
    trivial⟩

namespace PageBuild

theorem read_data {b : PageBuild} (exact : ExactEntries b.page.descriptor.frontmatter.entries) :
    Json.read b.data = some b.page.descriptor.toData :=
  Json.read_document (Descriptor.exact_toData exact)

theorem read_of_writeData {b : PageBuild} {directory path : Path} {files after : FileSystem}
    (written : b.writeData directory files = (.ok path, after)) :
    path = b.dataPath directory ∧ after.read path = .ok b.data.toUTF8 := by
  obtain ⟨rfl, placed⟩ := writeDataOn_eq_ok written
  exact ⟨rfl, FileSystem.read_withFile placed⟩

theorem writeData_of_withFile {b : PageBuild} {directory : Path} {files after : FileSystem}
    (placed : files.withFile (b.dataPath directory) b.data.toUTF8 = .ok after) :
    b.writeData directory files = (.ok (b.dataPath directory), after) :=
  writeDataOn_of_ok rfl (Disk.writeFile_of_withFile placed)

/-- What a data file holds is a JSON document of the payload, and the payload has the descriptor in it,
so no two descriptors share their text. -/
theorem read_data_eq_toData (b : PageBuild)
    (exact : ExactEntries b.page.descriptor.frontmatter.entries) :
    (∀ directory path files after, b.writeData directory files = (.ok path, after) →
      after.read path = .ok b.data.toUTF8) ∧
    Json.read b.data = some b.page.descriptor.toData ∧
    Descriptor.ofData b.page.descriptor.toData = some b.page.descriptor ∧
    ∀ b' : PageBuild, ExactEntries b'.page.descriptor.frontmatter.entries →
      b.page.descriptor ≠ b'.page.descriptor → b.data ≠ b'.data := by
  have reads := read_data exact
  refine ⟨fun _ _ _ _ written => (read_of_writeData written).2, reads,
    Descriptor.ofData_toData _, fun b' exact' differ same => differ ?_⟩
  have reads' := read_data exact'
  have payload : some b.page.descriptor.toData = some b'.page.descriptor.toData := by
    rw [← reads, ← reads']
    exact congrArg Json.read same
  have descriptor : some b.page.descriptor = some b'.page.descriptor := by
    rw [← Descriptor.ofData_toData, ← Descriptor.ofData_toData, Option.some.inj payload]
  exact Option.some.inj descriptor

/-- A frontmatter with an integer of many digits, an empty collection inside a list and strings that
have to be escaped, in a file, and one that differs from it in a single character. -/
theorem read_data_eq_toData_escaped :
    let frontmatter (s : String) : Table String Data :=
      ⟨[("", .int (-18446744073709551617)), ("\"\\\x07é",
        .list [.mapping [("a", .text s), ("b", .null)], .list [], .bool true])], by simp⟩
    let build (s : String) : PageBuild :=
      ⟨⟨0, ⟨⟨"k", "/", "\x7f\n", "en", frontmatter s, "", [⟨2, "T", "t", [⟨-3, "", "", []⟩]⟩], ""⟩,
          by simp [Header.slugs, Header.walkAll, Header.walk]⟩, fun _ => .ok (.static "" 0)⟩,
        {}, .empty, .ofString ".", ⟨2024, 1, 2, 3, 4, 5, 0⟩⟩
    let b := build "\t\x00\""
    let b' := build "\t\x01\""
    (ExactEntries b.page.descriptor.frontmatter.entries ∧
      ExactEntries b'.page.descriptor.frontmatter.entries) ∧
    (∃ after, b.writeData (.ofString ".") (FileSystem.new []) =
        (.ok (.ofString ".rport-pages-k-data.json"), after) ∧
      after.read (.ofString ".rport-pages-k-data.json") = .ok b.data.toUTF8) ∧
    Json.read b.data = some b.page.descriptor.toData ∧ b.data ≠ b'.data := by
  intro frontmatter build b b'
  have exact (s : String) : ExactEntries (build s).page.descriptor.frontmatter.entries := by
    simp [build, frontmatter, ExactEntries, ExactItems, Exact]
  obtain ⟨held, reads, _, unlike⟩ := read_data_eq_toData b (exact _)
  have path : b.dataPath (.ofString ".") = .ofString ".rport-pages-k-data.json" := by decide +kernel
  have located : (FileSystem.new []).locate (b.dataPath (.ofString ".")) =
      .ok [".rport-pages-k-data.json"] := by decide +kernel
  have free : (FileSystem.new []).at? [".rport-pages-k-data.json"] ≠ some .directory := by
    simp [FileSystem.at?_new]
  have written := writeData_of_withFile (FileSystem.withFile_of_located located free b.data.toUTF8)
  rw [path] at written
  refine ⟨⟨exact _, exact _⟩, ⟨_, written, held _ _ _ _ written⟩, reads,
    unlike b' (exact _) fun same => ?_⟩
  have entries := congrArg (fun d : Descriptor => d.frontmatter.entries) same
  simp [b, b', build, frontmatter] at entries

end PageBuild
end DocPages
