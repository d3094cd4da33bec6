/-! # Character references

The characters that a reader of markup would take for structure are written as references.  Text,
attribute values and the holes of the document shell each have a table; every other character stands
for itself. -/
set_option autoImplicit false
namespace DocPages.Text

abbrev References := Char → List Char

namespace References

def text : References
  | '&' => "&amp;".toList
  | '<' => "&lt;".toList
  | '>' => "&gt;".toList
  | c => [c]

def attributeValue : References
  | '"' => "&quot;".toList
  | '\'' => "&#x27;".toList
  | c => text c

/-- The holes of the document shell stand in text and in attribute values alike. -/
def hole : References
  | '"' => "&#34;".toList
  | '\'' => "&#39;".toList
  | c => text c

def write (table : References) (s : String) : List Char := s.toList.flatMap table

end References

theorem References.write_append (table : References) (s t : String) :
    table.write (s ++ t) = table.write s ++ table.write t := by
  simp [References.write]

end DocPages.Text
