import DocPages.Node.Basic
import DocPages.Text.Escape
/-! # Markup

A tree as markup.  Texts and attribute values are escaped, finished markup is copied, a component
stands for the tree it renders to, and a fragment for its children.  A void element has a start tag
and nothing else.  The first value in document order that is no node stops the rendering. -/
set_option autoImplicit false
namespace DocPages.Markup

inductive Error
  /-- a value of the named kind stands where a node is needed -/
  | notANode (kind : String)
  deriving DecidableEq

def Error.message : Error → String
  | .notANode kind => "Cannot render node of type " ++ kind

def voidTags : List String :=
  ["area", "base", "br", "col", "embed", "hr", "img", "input", "link", "meta", "source", "track",
    "wbr"]

def isVoid (tag : String) : Bool := voidTags.contains tag

def writeAttributes : Attributes → List Char
  | [] => []
  | (_, none) :: rest => writeAttributes rest
  | (name, some value) :: rest =>
    ' ' :: name.toList ++ '=' :: '"' :: Text.References.attributeValue.write value
      ++ '"' :: writeAttributes rest

def startTag (tag : String) (attributes : Attributes) : List Char :=
  '<' :: tag.toList ++ writeAttributes attributes ++ ['>']

def endTag (tag : String) : List Char := '<' :: '/' :: tag.toList ++ ['>']

mutual
def write : Node → Except Error (List Char)
  | .text s => .ok (Text.References.text.write s)
  | .static html _ => .ok html.toList
  | .component _ _ body => write body
  | .fragment children => writeAll children
  | .element tag attributes children =>
    if isVoid tag then .ok (startTag tag attributes)
    else do
      let inner ← writeAll children
      return startTag tag attributes ++ inner ++ endTag tag
  | .foreign value => .error (.notANode value.kind)

def writeAll : List Node → Except Error (List Char)
  | [] => .ok []
  | n :: ns => do
    let first ← write n
    let rest ← writeAll ns
    return first ++ rest
end

def render (n : Node) : Except Error String := (write n).map String.ofList

section Writing
variable {tag : String} {attributes : Attributes} {n : Node} {ns : List Node}

theorem write_of_void (void : isVoid tag) :
    write (.element tag attributes ns) = .ok (startTag tag attributes) := by
  rw [write, if_pos void]

theorem write_of_children (content : ¬isVoid tag) {inner : List Char}
    (wrote : writeAll ns = .ok inner) :
    write (.element tag attributes ns) = .ok (startTag tag attributes ++ inner ++ endTag tag) := by
  rw [write, if_neg content, wrote]
  rfl

theorem write_of_children_error (content : ¬isVoid tag) {e : Error}
    (stopped : writeAll ns = .error e) : write (.element tag attributes ns) = .error e := by
  rw [write, if_neg content, stopped]
  rfl

theorem writeAll_of_ok {first rest : List Char} (wrote : write n = .ok first)
    (wroteAll : writeAll ns = .ok rest) : writeAll (n :: ns) = .ok (first ++ rest) := by
  rw [writeAll, wrote, wroteAll]
  rfl

theorem writeAll_of_error {e : Error} (stopped : write n = .error e) :
    writeAll (n :: ns) = .error e := by
  rw [writeAll, stopped]
  rfl

theorem writeAll_of_later_error {first : List Char} {e : Error} (wrote : write n = .ok first)
    (stopped : writeAll ns = .error e) : writeAll (n :: ns) = .error e := by
  rw [writeAll, wrote, stopped]
  rfl

theorem render_of_write {cs : List Char} (wrote : write n = .ok cs) :
    render n = .ok (String.ofList cs) := by
  rw [render, wrote]
  rfl

end Writing

end DocPages.Markup
