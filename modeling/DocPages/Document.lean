import DocPages.Instant
import DocPages.Page.Descriptor
import DocPages.Text.Escape
/-! # The document shell

A page becomes a document by filling the holes of a fixed shell.  Every hole is escaped except the
content, which is markup already.  Description and table of contents are left out when a page has
none. -/
set_option autoImplicit false
namespace DocPages

/-- What differs from document to document. -/
structure Document where
  language : String
  excerpt : String
  title : String
  key : String
  headers : List Header
  content : String
  siteName : String
  generated : Instant

namespace Document

def hole (s : String) : List Char := Text.References.hole.write s

def tocLink (level : Int) (title slug : String) : List Char :=
  "  <li class=\"toc-item toc-level-".toList ++ (toString level).toList
    ++ "\"><a class=\"toc-link\" href=\"#".toList ++ hole slug ++ "\">".toList ++ hole title
    ++ "</a>\n".toList

mutual
def tocEntry : Header → List Char
  | ⟨level, title, slug, []⟩ => tocLink level title slug ++ "  </li>\n".toList
  | ⟨level, title, slug, child :: children⟩ =>
    tocLink level title slug ++ "  <ul class=\"toc-list\">\n".toList ++ tocEntry child
      ++ tocEntries children ++ "</ul>\n\n  </li>\n".toList

def tocEntries : List Header → List Char
  | [] => []
  | h :: hs => tocEntry h ++ tocEntries hs
end

def tocList (headers : List Header) : List Char :=
  "<ul class=\"toc-list\">\n".toList ++ tocEntries headers ++ "</ul>\n".toList

def description (excerpt : String) : List Char :=
  if excerpt.isEmpty then []
  else "  <meta name=\"description\" content=\"".toList ++ hole excerpt ++ "\">\n".toList

def sidebar (headers : List Header) : List Char :=
  if headers.isEmpty then []
  else
    "    <aside class=\"sidebar\">\n      <nav class=\"toc\" aria-label=\"On this page\">\n".toList
      ++ "        ".toList ++ tocList headers ++ "\n      </nav>\n    </aside>\n".toList

def opening (d : Document) : List Char :=
  "<!DOCTYPE html>\n<html lang=\"".toList ++ hole d.language ++ "\">\n<head>\n".toList
    ++ "  <meta charset=\"utf-8\">\n".toList
    ++ "  <meta name=\"viewport\" content=\"width=device-width, initial-scale=1\">\n".toList
    ++ "  <meta name=\"generator\" content=\"rport-pages\">\n".toList
    ++ description d.excerpt
    ++ "  <title>".toList ++ hole d.title ++ "</title>\n</head>\n<body>\n".toList
    ++ "  <div class=\"theme-container\" data-page-key=\"".toList ++ hole d.key ++ "\">\n".toList
    ++ sidebar d.headers
    ++ "    <main class=\"page\">\n      <div class=\"theme-default-content\">\n".toList

def ending (d : Document) : List Char :=
  "\n      </div>\n      <footer class=\"page-meta\">\n        <span class=\"meta-item\">".toList
    ++ hole d.siteName ++ "</span>\n        <time datetime=\"".toList
    ++ hole d.generated.timestamp ++ "\">".toList ++ hole d.generated.calendarDay
    ++ "</time>\n      </footer>\n    </main>\n  </div>\n</body>\n</html>\n".toList

def chars (d : Document) : List Char := d.opening ++ d.content.toList ++ d.ending

def write (d : Document) : String := String.ofList d.chars

end Document
end DocPages
