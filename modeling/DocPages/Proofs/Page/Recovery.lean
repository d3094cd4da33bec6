import DocPages.Page.Descriptor
/-! # Descriptors from their payload

The payload of a descriptor names every field once, and the entry of a heading holds its children as a
list of further entries.  Reading the fields back by name and the outline entry by entry gives the
descriptor that the payload was made of (`Descriptor.ofData_toData`). -/
set_option autoImplicit false
namespace DocPages

namespace Header

mutual
def ofData : Data → Option Header
  | .mapping [("level", .int level), ("title", .text title), ("slug", .text slug),
      ("children", .list children)] => (ofDataAll children).map (⟨level, title, slug, ·⟩)
  | _ => none

def ofDataAll : List Data → Option (List Header)
  | [] => some []
  | d :: ds =>
    match ofData d, ofDataAll ds with
    | some h, some hs => some (h :: hs)
    | _, _ => none
end

mutual
theorem ofData_toData : ∀ h : Header, ofData h.toData = some h
  | ⟨level, title, slug, children⟩ => by
    rw [toData, ofData, ofDataAll_toDataAll children]
    rfl

theorem ofDataAll_toDataAll : ∀ forest : List Header, ofDataAll (toDataAll forest) = some forest
  | [] => rfl
  | h :: hs => by
    rw [toDataAll, ofDataAll, ofData_toData h, ofDataAll_toDataAll hs]
end

end Header

def PageFields.ofData : Data → Option PageFields
  | .mapping [("key", .text key), ("path", .text path), ("title", .text title),
      ("lang", .text language), ("frontmatter", .mapping frontmatter), ("excerpt", .text excerpt),
      ("headers", .list headers), ("filePathRelative", .text sourcePath)] =>
    if distinct : (frontmatter.map Prod.fst).Nodup then
      (Header.ofDataAll headers).map
        (⟨key, path, title, language, ⟨frontmatter, distinct⟩, excerpt, ·, sourcePath⟩)
    else none
  | _ => none

theorem firstRepeated_of_nodup {seen l : List String} (distinct : l.Nodup)
    (new : ∀ s ∈ l, s ∉ seen) : firstRepeated seen l = none := by
  induction l generalizing seen with
  | nil => rfl
  | cons s l ih =>
    obtain ⟨notLater, distinct⟩ := List.nodup_cons.1 distinct
    rw [firstRepeated, if_neg (new s List.mem_cons_self)]
    apply ih distinct
    intro t ht seenBefore
    rcases List.mem_cons.1 seenBefore with rfl | before
    · exact notLater ht
    · exact new t (List.mem_cons_of_mem _ ht) before

namespace Descriptor

theorem make_toPageFields (d : Descriptor) : make d.toPageFields = .ok d := by
  have accepted : firstRepeated [] (Header.slugs d.headers) = none :=
    firstRepeated_of_nodup d.nodup_slugs (by simp)
  unfold make
  split
  next repeated => rw [accepted] at repeated; cases repeated
  next => rfl

def ofData (payload : Data) : Option Descriptor :=
  (PageFields.ofData payload).bind fun fields => (make fields).toOption

theorem ofData_toData (d : Descriptor) : ofData d.toData = some d := by
  have fields : PageFields.ofData d.toData = some d.toPageFields := by
    simp only [toData, PageFields.ofData, dif_pos d.frontmatter.nodup, Header.ofDataAll_toDataAll]
    rfl
  rw [ofData, fields, Option.bind_some, make_toPageFields]
  rfl

end Descriptor
end DocPages
