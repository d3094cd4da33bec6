/-! # Data values

The values that a page may carry beside its nodes: frontmatter, the payload of a page, and whatever
stands in a tree without being a node.  A mapping keeps its entries in order. -/
set_option autoImplicit false
namespace DocPages

inductive Data
  | null
  | bool (b : Bool)
  | int (n : Int)
  | float (x : Float)
  | text (s : String)
  | list (items : List Data)
  | mapping (entries : List (String × Data))
  deriving Inhabited

namespace Data

def kind : Data → String
  | .null => "NoneType"
  | .bool _ => "bool"
  | .int _ => "int"
  | .float _ => "float"
  | .text _ => "str"
  | .list _ => "list"
  | .mapping _ => "dict"

def number? : Data → Option (Int ⊕ Float)
  | .bool b => some (.inl (if b then 1 else 0))
  | .int n => some (.inl n)
  | .float x => some (.inr x)
  | _ => none

def sameNumber : Int ⊕ Float → Int ⊕ Float → Bool
  | .inl a, .inl b => a == b
  | .inr a, .inr b => a == b
  | .inl a, .inr b => Float.ofInt a == b
  | .inr a, .inl b => a == Float.ofInt b

mutual
/-- Numbers are compared by value and mappings without regard to order. -/
def same : Data → Data → Bool
  | .null, .null => true
  | .text a, .text b => a == b
  | .list as, .list bs => sameItems as bs
  | .mapping as, .mapping bs => as.length == bs.length && sameEntries as bs
  | a, b =>
    match a.number?, b.number? with
    | some x, some y => sameNumber x y
    | _, _ => false

def sameItems : List Data → List Data → Bool
  | [], [] => true
  | a :: as, b :: bs => same a b && sameItems as bs
  | _, _ => false

def sameEntries : List (String × Data) → List (String × Data) → Bool
  | [], _ => true
  | (k, a) :: as, bs =>
    (match bs.lookup k with
      | some b => same a b
      | none => false) && sameEntries as bs
end

end Data
end DocPages
