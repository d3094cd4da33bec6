import DocPages.FragmentCache
import DocPages.Context
import DocPages.Page.Descriptor
/-! # Pages

A page is a descriptor and a way to render its tree in a context. -/
set_option autoImplicit false
namespace DocPages

inductive PageError
  | component (e : ResolutionError)
  | fragment (e : FragmentError)
  deriving DecidableEq

structure Page where
  identity : Identity
  descriptor : Descriptor
  render : Context → Except PageError Node

def Page.key (p : Page) : String := p.descriptor.key

end DocPages
