/-! # Blanks

The characters that count as white space when a text is stripped or cut into words: the horizontal
and vertical blanks of ASCII, the four information separators, the next-line control, and every
character of the Unicode property `White_Space`.  Stripping ends at the first character that is not
blank (`head?_stripStart`), and leaves alone what starts with one (`stripStart_eq_self`). -/
set_option autoImplicit false
namespace DocPages.Text

def isBlank (c : Char) : Bool :=
  let n := c.toNat
  (0x09 ≤ n && n ≤ 0x0d) || (0x1c ≤ n && n ≤ 0x20) || n == 0x85 || n == 0xa0 || n == 0x1680
    || (0x2000 ≤ n && n ≤ 0x200a) || n == 0x2028 || n == 0x2029 || n == 0x202f || n == 0x205f
    || n == 0x3000

def stripStart (cs : List Char) : List Char := cs.dropWhile isBlank

def stripEnd (cs : List Char) : List Char := (stripStart cs.reverse).reverse

def strip (s : String) : String := String.ofList (stripEnd (stripStart s.toList))

/-- Cuts a text at every blank; two neighbouring blanks enclose an empty piece. -/
def pieces : List Char → List (List Char)
  | [] => [[]]
  | c :: cs =>
    if isBlank c then [] :: pieces cs
    else match pieces cs with
      | [] => [[c]]
      | p :: ps => (c :: p) :: ps

def wordLists (cs : List Char) : List (List Char) := (pieces cs).filter fun p => !p.isEmpty

def words (s : String) : List String := (wordLists s.toList).map String.ofList

theorem stripStart_eq_self {cs : List Char} (h : ∀ c, cs.head? = some c → isBlank c = false) :
    stripStart cs = cs := by
  cases cs with
  | nil => rfl
  | cons c rest => simp [stripStart, h c rfl]

theorem head?_stripStart (cs : List Char) :
    ∀ c, (stripStart cs).head? = some c → isBlank c = false := by
  induction cs with
  | nil => intro c h; simp [stripStart] at h
  | cons d rest ih =>
    intro c h
    by_cases hd : isBlank d = true
    · simp only [stripStart, List.dropWhile_cons, hd, if_true] at h
      exact ih c h
    · simp only [stripStart, List.dropWhile_cons, hd, Bool.false_eq_true, if_false,
        List.head?_cons, Option.some.injEq] at h
      subst h
      simpa using hd

end DocPages.Text
