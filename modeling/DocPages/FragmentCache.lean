import DocPages.Component
import DocPages.Text.Order
/-! # Cache of static fragments

Parts of a page that do not depend on the render context are built once and shared.  A cache has one
builder for each fragment name.  `get` calls the builder at the first access, stores the object that
it returns, and hands out that object from then on; a builder that fails stores nothing and is called
again at the next access.  A null value counts as stored, yet not as made: the next access calls the
builder again. -/
set_option autoImplicit false
namespace DocPages

/-- A node with the identity of the object that holds it. -/
structure Object where
  identity : Identity
  node : Node
  deriving Inhabited

def Object.isNull (o : Object) : Bool :=
  match o.node with
  | .foreign .null => true
  | _ => false

inductive FragmentError
  | unknown (name : String) (known : List String)
  /-- a builder asked for a fragment that is registered and not made -/
  | notMade (name : String)
  | failed (message : String)
  deriving DecidableEq

def FragmentError.message : FragmentError → String
  | .unknown name known =>
    "Unknown static fragment '" ++ name ++ "'. Known fragments: " ++ Text.enumerate known
  | .notMade name => "Static fragment '" ++ name ++ "' is not built."
  | .failed message => message

structure Call where
  /-- how often this builder was called before -/
  earlier : Nat
  /-- an identity that no object has so far -/
  fresh : Identity
  /-- the fragments that are made already -/
  made : String → Except FragmentError Object

abbrev Builder := Call → Except FragmentError Object

structure FragmentCache where
  builders : Table String Builder
  fragments : Table String Object
  calls : Table String Nat
  nextIdentity : Identity

namespace FragmentCache

/-- A cache in which nothing is built; new objects are numbered from `firstIdentity`. -/
def new (builders : Table String Builder) (firstIdentity : Identity) : FragmentCache :=
  ⟨builders, .empty, .empty, firstIdentity⟩

def names (cache : FragmentCache) : List String := cache.builders.keys

def isBuilt (cache : FragmentCache) (name : String) : Bool := cache.fragments.contains name

def callsOf (cache : FragmentCache) (name : String) : Nat := (cache.calls.find? name).getD 0

/-- The stored object of a name, unless it is null. -/
def made? (cache : FragmentCache) (name : String) : Option Object :=
  match cache.fragments.find? name with
  | some o => if o.isNull then none else some o
  | none => none

def made (cache : FragmentCache) (name : String) : Except FragmentError Object :=
  match cache.made? name with
  | some o => .ok o
  | none =>
    if cache.builders.contains name then .error (.notMade name)
    else .error (.unknown name cache.names)

def call (cache : FragmentCache) (name : String) (builder : Builder) :
    FragmentCache × Except FragmentError Object :=
  ({ cache with
      calls := cache.calls.insert name (cache.callsOf name + 1)
      nextIdentity := cache.nextIdentity + 1 },
    builder ⟨cache.callsOf name, cache.nextIdentity, cache.made⟩)

def store (cache : FragmentCache) (name : String) (o : Object) : FragmentCache :=
  { cache with fragments := cache.fragments.insert name o }

def build (cache : FragmentCache) (name : String) (builder : Builder) :
    FragmentCache × Except FragmentError Object :=
  match cache.call name builder with
  | (called, .ok o) => (called.store name o, .ok o)
  | (called, .error e) => (called, .error e)

def get (cache : FragmentCache) (name : String) : FragmentCache × Except FragmentError Object :=
  match cache.made? name with
  | some o => (cache, .ok o)
  | none =>
    match cache.builders.find? name with
    | none => (cache, .error (.unknown name cache.names))
    | some builder => cache.build name builder

def getAll (cache : FragmentCache) : List String → FragmentCache × Except FragmentError Unit
  | [] => (cache, .ok ())
  | name :: rest =>
    match cache.get name with
    | (cache, .ok _) => cache.getAll rest
    | (cache, .error e) => (cache, .error e)

def warm (cache : FragmentCache) : FragmentCache × Except FragmentError Unit :=
  cache.getAll cache.names

end FragmentCache
end DocPages
