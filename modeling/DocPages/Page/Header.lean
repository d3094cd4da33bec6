import DocPages.Data
/-! # Page outlines

The headings of a page as a forest.  Document order visits an entry before its children and siblings
from left to right. -/
set_option autoImplicit false
namespace DocPages

structure Header where
  level : Int
  title : String
  slug : String
  children : List Header
  deriving Inhabited

namespace Header

mutual
def walk : Header → List Header
  | ⟨level, title, slug, children⟩ => ⟨level, title, slug, children⟩ :: walkAll children

def walkAll : List Header → List Header
  | [] => []
  | h :: hs => walk h ++ walkAll hs
end

def slugs (forest : List Header) : List String := (walkAll forest).map Header.slug

mutual
def toData : Header → Data
  | ⟨level, title, slug, children⟩ =>
    .mapping [("level", .int level), ("title", .text title), ("slug", .text slug),
      ("children", .list (toDataAll children))]

def toDataAll : List Header → List Data
  | [] => []
  | h :: hs => toData h :: toDataAll hs
end

end Header
end DocPages
