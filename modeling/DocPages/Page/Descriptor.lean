import DocPages.Page.Header
import DocPages.Table
/-! # Page descriptors

What is known of a page before it is rendered.  Slugs are anchors, so no slug occurs twice on a page:
`Descriptor.make` refuses the first entry, in document order, whose slug came before. -/
set_option autoImplicit false
namespace DocPages

inductive DescriptorError
  | repeatedSlug (key slug : String)
  | duplicateKey (key : String)
  | duplicatePath (path : String)
  deriving DecidableEq

def DescriptorError.message : DescriptorError → String
  | .repeatedSlug key slug => "Page '" ++ key ++ "' repeats header slug '" ++ slug ++ "'."
  | .duplicateKey key => "Duplicate page key '" ++ key ++ "'."
  | .duplicatePath path => "Duplicate page path '" ++ path ++ "'."

structure PageFields where
  key : String
  path : String
  title : String
  language : String
  frontmatter : Table String Data := .empty
  excerpt : String := ""
  headers : List Header := []
  sourcePath : String := ""

structure Descriptor extends PageFields where
  nodup_slugs : (Header.slugs headers).Nodup

def firstRepeated : List String → List String → Option String
  | _, [] => none
  | seen, s :: rest => if s ∈ seen then some s else firstRepeated (s :: seen) rest

theorem firstRepeated_eq_none {seen l : List String} (h : firstRepeated seen l = none) :
    l.Nodup ∧ ∀ s ∈ l, s ∉ seen := by
  induction l generalizing seen with
  | nil => exact ⟨List.nodup_nil, by simp⟩
  | cons s rest ih =>
    by_cases hs : s ∈ seen
    · simp [firstRepeated, hs] at h
    · simp only [firstRepeated, hs, if_false] at h
      obtain ⟨hd, hn⟩ := ih h
      refine ⟨List.nodup_cons.2 ⟨fun hm => hn s hm (by simp), hd⟩, ?_⟩
      intro t ht
      rcases List.mem_cons.1 ht with rfl | ht
      · exact hs
      · exact fun hm => hn t ht (List.mem_cons_of_mem _ hm)

namespace Descriptor

def make (fields : PageFields) : Except DescriptorError Descriptor :=
  match h : firstRepeated [] (Header.slugs fields.headers) with
  | some slug => .error (.repeatedSlug fields.key slug)
  | none => .ok { fields with nodup_slugs := (firstRepeated_eq_none h).1 }

def slugs (d : Descriptor) : List String := Header.slugs d.headers

def walkHeaders (d : Descriptor) : List Header := Header.walkAll d.headers

def toData (d : Descriptor) : Data :=
  .mapping [("key", .text d.key), ("path", .text d.path), ("title", .text d.title),
    ("lang", .text d.language), ("frontmatter", .mapping d.frontmatter.entries),
    ("excerpt", .text d.excerpt), ("headers", .list (Header.toDataAll d.headers)),
    ("filePathRelative", .text d.sourcePath)]

end Descriptor
end DocPages
