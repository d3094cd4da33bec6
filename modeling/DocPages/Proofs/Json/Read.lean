import DocPages.Data
import DocPages.Decimal.Read
/-! # Reading JSON

A document is cut into tokens, with blanks between them ignored, and a stack machine reads the tokens
one by one.  The stack holds the collections that are open, and the mode says what may come next.  A
mapping keeps all of its entries in the order of the text.  Numbers without fraction and exponent are
integers of any size. -/
set_option autoImplicit false
namespace DocPages.Json

inductive Token
  | openList
  | closeList
  | openMapping
  | closeMapping
  | comma
  | colon
  | text (s : String)
  /-- a number or one of the literal names -/
  | scalar (d : Data)

def punctuation? : Char → Option Token
  | '[' => some .openList
  | ']' => some .closeList
  | '\x7b' => some .openMapping
  | '\x7d' => some .closeMapping
  | ',' => some .comma
  | ':' => some .colon
  | _ => none

def isSpace (c : Char) : Bool := c ∈ [' ', '\n', '\r', '\t']

def isWordChar (c : Char) : Bool := !isSpace c && c != '"' && (punctuation? c).isNone

/-! ## Strings -/

def simpleEscape? : Char → Option Char
  | '"' => some '"'
  | '\\' => some '\\'
  | '/' => some '/'
  | 'b' => some '\x08'
  | 'f' => some '\x0c'
  | 'n' => some '\n'
  | 'r' => some '\r'
  | 't' => some '\t'
  | _ => none

def surrogatePair? (high low : Nat) : Option Char :=
  if 0xd800 ≤ high ∧ high < 0xdc00 ∧ 0xdc00 ≤ low ∧ low < 0xe000 then
    some (Char.ofNat (0x10000 + (high - 0xd800) * 0x400 + (low - 0xdc00)))
  else none

def push (c : Char) (read : Option (List Char × List Char)) : Option (List Char × List Char) :=
  read.map fun r => (c :: r.1, r.2)

def readString : List Char → Option (List Char × List Char)
  | [] => none
  | '"' :: rest => some ([], rest)
  | '\\' :: 'u' :: k :: l :: m :: n :: rest =>
    match Decimal.readNat 16 [k, l, m, n] with
    | none => none
    | some unit =>
      if unit < 0xd800 ∨ 0xe000 ≤ unit then push (Char.ofNat unit) (readString rest)
      else match rest with
        | '\\' :: 'u' :: k :: l :: m :: n :: rest =>
          match (Decimal.readNat 16 [k, l, m, n]).bind (surrogatePair? unit) with
          | none => none
          | some c => push c (readString rest)
        | _ => none
  | '\\' :: e :: rest =>
    match simpleEscape? e with
    | none => none
    | some c => push c (readString rest)
  | c :: rest => if c = '\\' ∨ c.toNat < 0x20 then none else push c (readString rest)

theorem eq_some_of_push {c : Char} {read : Option (List Char × List Char)} {s rest : List Char}
    (h : push c read = some (s, rest)) : ∃ s', read = some (s', rest) := by
  obtain ⟨⟨s', rest'⟩, found, same⟩ := Option.map_eq_some_iff.1 h
  obtain ⟨_, rfl⟩ := Prod.mk.inj same
  exact ⟨s', found⟩

theorem length_of_readString {cs s rest : List Char} (h : readString cs = some (s, rest)) :
    rest.length < cs.length := by
  fun_induction readString cs generalizing s with
  | case1 => contradiction
  | case2 =>
    cases h
    exact Nat.lt_succ_self _
  | case3 => contradiction
  | case4 k l m n cs unit _ _ ih =>
    obtain ⟨s', found⟩ := eq_some_of_push h
    have shorter := ih found
    simp only [List.length_cons]
    omega
  | case5 => contradiction
  | case6 k l m n unit _ _ k' l' m' n' cs c _ ih =>
    obtain ⟨s', found⟩ := eq_some_of_push h
    have shorter := ih found
    simp only [List.length_cons]
    omega
  | case7 => contradiction
  | case8 => contradiction
  | case9 e cs _ c _ ih =>
    obtain ⟨s', found⟩ := eq_some_of_push h
    have shorter := ih found
    simp only [List.length_cons]
    omega
  | case10 => contradiction
  | case11 c cs _ _ _ _ ih =>
    obtain ⟨s', found⟩ := eq_some_of_push h
    have shorter := ih found
    simp only [List.length_cons]
    omega

/-! ## Numbers and literal names -/

def readUnsigned (cs : List Char) : Option (Nat ⊕ Float) :=
  let whole := cs.takeWhile Char.isDigit
  if whole = [] ∨ (whole.head? = some '0' ∧ whole ≠ ['0']) then none
  else match cs.dropWhile Char.isDigit with
    | [] => some (.inl (Nat.ofDigitChars 10 whole 0))
    | '.' :: rest =>
      if (rest.takeWhile Char.isDigit).isEmpty then none
      else (Decimal.readUnsigned cs).map .inr
    | _ => (Decimal.readUnsigned cs).map .inr

def readNumber : List Char → Option Data
  | '-' :: cs =>
    match readUnsigned cs with
    | some (.inl n) => some (.int (-n))
    | some (.inr x) => some (.float (-x))
    | none => none
  | cs =>
    match readUnsigned cs with
    | some (.inl n) => some (.int n)
    | some (.inr x) => some (.float x)
    | none => none

def readWord (cs : List Char) : Option Data :=
  if cs = "null".toList then some .null
  else if cs = "true".toList then some (.bool true)
  else if cs = "false".toList then some (.bool false)
  else readNumber cs

/-! ## Tokens -/

def lex : List Char → Option (List Token)
  | [] => some []
  | c :: cs =>
    if isSpace c then lex cs
    else if c = '"' then
      match string : readString cs with
      | none => none
      | some (s, rest) =>
        have := length_of_readString string
        (lex rest).map (.text (String.ofList s) :: ·)
    else match punctuation? c with
      | some t => (lex cs).map (t :: ·)
      | none => do
        let d ← readWord (c :: cs.takeWhile isWordChar)
        let rest ← lex (cs.dropWhile isWordChar)
        return .scalar d :: rest
  termination_by cs => cs.length
  decreasing_by
    · simp
    · simp only [List.length_cons]
      omega
    · simp
    · have shorter := (List.dropWhile_sublist (l := cs) isWordChar).length_le
      simp only [List.length_cons]
      omega

/-! ## Values -/

/-- A collection that is open: what it holds so far, and in a mapping the name whose value is being
read. -/
inductive Frame
  | list (items : List Data)
  | mapping (entries : List (String × Data)) (name : String)

inductive Mode
  | value
  /-- the first item of a list comes next, or the end of the list -/
  | firstItem
  /-- the first name of a mapping comes next, or the end of the mapping -/
  | firstName
  | name (entries : List (String × Data))
  | colon (entries : List (String × Data)) (name : String)
  | after (d : Data)

def begin (stack : List Frame) : Token → Option (Mode × List Frame)
  | .scalar d => some (.after d, stack)
  | .text s => some (.after (.text s), stack)
  | .openList => some (.firstItem, .list [] :: stack)
  | .openMapping => some (.firstName, stack)
  | _ => none

def step : Mode × List Frame → Token → Option (Mode × List Frame)
  | (.value, stack), t => begin stack t
  | (.firstItem, .list items :: stack), .closeList => some (.after (.list items), stack)
  | (.firstItem, stack), t => begin stack t
  | (.firstName, stack), .closeMapping => some (.after (.mapping []), stack)
  | (.firstName, stack), .text k => some (.colon [] k, stack)
  | (.name entries, stack), .text k => some (.colon entries k, stack)
  | (.colon entries k, stack), .colon => some (.value, .mapping entries k :: stack)
  | (.after d, .list items :: stack), .comma => some (.value, .list (items ++ [d]) :: stack)
  | (.after d, .list items :: stack), .closeList => some (.after (.list (items ++ [d])), stack)
  | (.after d, .mapping entries k :: stack), .comma => some (.name (entries ++ [(k, d)]), stack)
  | (.after d, .mapping entries k :: stack), .closeMapping =>
    some (.after (.mapping (entries ++ [(k, d)])), stack)
  | _, _ => none

def read (document : String) : Option Data := do
  let ts ← lex document.toList
  match ← ts.foldlM step (.value, []) with
  | (.after d, []) => some d
  | _ => none

end DocPages.Json
