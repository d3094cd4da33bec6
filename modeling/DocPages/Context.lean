import DocPages.Component
import DocPages.Text.Order
/-! # Render contexts

The components that a page may ask for, by name.  A page never holds its components: the context
that it is rendered in decides which one a name stands for, and the latest registration wins. -/
set_option autoImplicit false
namespace DocPages

structure ResolutionError where
  name : String
  /-- the registered names, in registration order -/
  known : List String
  deriving DecidableEq

def ResolutionError.message (e : ResolutionError) : String :=
  let known := Text.enumerate e.known
  "Component '" ++ e.name ++ "' is not registered. Known components: "
    ++ (if known.isEmpty then "none" else known)

structure Context where
  components : Table String Component

namespace Context

def empty : Context := ⟨.empty⟩

/-- The name to register under: the given one unless it is missing or empty. -/
def effectiveName (component : Component) (name : Option String) : String :=
  match name with
  | none => component.name
  | some n => if n.isEmpty then component.name else n

def register (context : Context) (component : Component) (name : Option String) : Context :=
  ⟨context.components.insert (effectiveName component name) component⟩

def ofComponents (components : List Component) : Context :=
  components.foldl (fun context c => context.register c none) empty

def names (context : Context) : List String := context.components.keys

def contains (context : Context) (name : String) : Bool := context.components.contains name

def resolve (context : Context) (name : String) : Except ResolutionError Component :=
  match context.components.find? name with
  | some c => .ok c
  | none => .error ⟨name, context.names⟩

def standard (identity : Identity) (label : String) : Context :=
  ofComponents [OutboundLink.component identity ⟨label⟩]

end Context
end DocPages
