import DocPages.Data
import DocPages.Table
import DocPages.Text.Blank
/-! # Node trees

The content of a page before it becomes markup.  A tree is made of texts, elements, runs of finished
markup, shared components and fragments; a fragment groups siblings without an element of its own.
A value that is no node may be handed in anywhere, and stays in the tree as `foreign` until the tree
is rendered.

A component is shared: two occurrences are the same component exactly when their identities agree,
whatever they render to. -/
set_option autoImplicit false
namespace DocPages

/-- Tells objects apart that may look alike. -/
abbrev Identity := Nat

/-- Names and values in authored order.  A name may occur more than once; a missing value marks the
attribute as absent. -/
abbrev Attributes := List (String × Option String)

namespace Attributes

/-- The value of the first attribute of that name, or `fallback` if there is none. -/
def get (attributes : Attributes) (name : String) (fallback : Option String) : Option String :=
  (attributes.lookup name).getD fallback

def classes (attributes : Attributes) : List String :=
  Text.words ((attributes.get "class" none).getD "")

end Attributes

inductive Node
  | text (content : String)
  | element (tag : String) (attributes : Attributes) (children : List Node)
  | static (html : String) (count : Int)
  | component (identity : Identity) (name : String) (body : Node)
  | fragment (children : List Node)
  | foreign (value : Data)
  deriving Inhabited

structure Element where
  tag : String
  attributes : Attributes
  children : List Node
  deriving Inhabited

namespace Node

def ofChild : Node → Node
  | .foreign (.text s) => .text s
  | n => n

/-- An element with the given attributes, a repeated name keeping its first place and its last
value. -/
def build (tag : String) (attributes : Attributes) (children : List Node) : Node :=
  .element tag (Table.ofList attributes).entries (children.map ofChild)

mutual
/-- The texts of a tree in document order, without those of components and finished markup. -/
def textContent : Node → String
  | .text s => s
  | .element _ _ children => textContents children
  | .fragment children => textContents children
  | .static _ _ => ""
  | .component _ _ _ => ""
  | .foreign _ => ""

def textContents : List Node → String
  | [] => ""
  | n :: ns => textContent n ++ textContents ns
end

mutual
def elements : Node → List Element
  | .element tag attributes children => ⟨tag, attributes, children⟩ :: elementsOf children
  | .fragment children => elementsOf children
  | .text _ => []
  | .static _ _ => []
  | .component _ _ _ => []
  | .foreign _ => []

def elementsOf : List Node → List Element
  | [] => []
  | n :: ns => elements n ++ elementsOf ns
end

mutual
/-- Trees are equal when they agree in everything but the insides of components, which are compared
by identity. -/
def same : Node → Node → Bool
  | .text a, .text b => a == b
  | .element t as cs, .element t' as' cs' => t == t' && as == as' && sameAll cs cs'
  | .static h n, .static h' n' => h == h' && n == n'
  | .component i _ _, .component i' _ _ => i == i'
  | .fragment cs, .fragment cs' => sameAll cs cs'
  | .foreign v, .foreign v' => v.same v'
  | _, _ => false

def sameAll : List Node → List Node → Bool
  | [], [] => true
  | a :: as, b :: bs => same a b && sameAll as bs
  | _, _ => false
end

def childAt? (children : List Node) (i : Int) : Option Node :=
  if 0 ≤ i then children[i.toNat]?
  else if i.natAbs ≤ children.length then children[children.length - i.natAbs]?
  else none

end Node
end DocPages
