/-! # Lists of names

Names that a message enumerates stand in the order of their code points. -/
set_option autoImplicit false
namespace DocPages.Text

def sorted (names : List String) : List String := names.mergeSort fun a b => decide (a ≤ b)

def enumerate (names : List String) : String := String.intercalate ", " (sorted names)

end DocPages.Text
