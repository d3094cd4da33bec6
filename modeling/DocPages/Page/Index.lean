import DocPages.Page.Basic
/-! # Page indexes

An index holds pages under their keys and under their routes; neither may be taken twice. -/
set_option autoImplicit false
namespace DocPages

inductive LookupError
  | unknownKey (key : String) (known : List String)
  | unservedPath (path : String)
  deriving DecidableEq

def LookupError.message : LookupError → String
  | .unknownKey key known =>
    "Unknown page '" ++ key ++ "'. Known pages: " ++ Text.enumerate known
  | .unservedPath path => "No page is served at '" ++ path ++ "'."

structure PageIndex where
  byKey : Table String Page
  byPath : Table String Page

/-- Pages are taken in where the index is; what was changed before an error stays changed. -/
abbrev Registering := ExceptT DescriptorError (StateM PageIndex)

namespace PageIndex

def empty : PageIndex := ⟨.empty, .empty⟩

/-- Takes a page in under its key and under its route.  The key is checked first, and both checks come
before the first change. -/
def register (page : Page) : Registering Unit := do
  let index ← get
  if index.byKey.contains page.key then throw (.duplicateKey page.key)
  if index.byPath.contains page.descriptor.path then throw (.duplicatePath page.descriptor.path)
  modify fun index => { index with byKey := index.byKey.insert page.key page }
  modify fun index => { index with byPath := index.byPath.insert page.descriptor.path page }

def add (index : PageIndex) (page : Page) : Except DescriptorError PageIndex :=
  match register page index with
  | (.ok (), index) => .ok index
  | (.error e, _) => .error e

def ofPages (pages : List Page) : Except DescriptorError PageIndex := pages.foldlM add empty

def get (index : PageIndex) (key : String) : Except LookupError Page :=
  match index.byKey.find? key with
  | some p => .ok p
  | none => .error (.unknownKey key index.byKey.keys)

def atPath (index : PageIndex) (path : String) : Except LookupError Page :=
  match index.byPath.find? path with
  | some p => .ok p
  | none => .error (.unservedPath path)

def pages (index : PageIndex) : List Page := index.byKey.values

def descriptors (index : PageIndex) : List Descriptor := index.pages.map Page.descriptor

def size (index : PageIndex) : Nat := index.byKey.size

end PageIndex
end DocPages
