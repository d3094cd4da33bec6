import Mathlib.Data.List.TakeWhile
import DocPages.Json.Write
import DocPages.Proofs.Decimal.Digits
import DocPages.Proofs.Json.Read
/-! # Written JSON is read back

The text of a value holds exactly its tokens, at whatever depth it is written (`lex_write`), and the
tokens of a value complete that value on top of any stack (`foldlM_tokens`).  So the reader returns
from the document of a value without floating-point numbers that very value, every entry in its place
(`read_document`). -/
set_option autoImplicit false
namespace DocPages.Json

mutual
/-- Values in which no floating-point number stands. -/
def Exact : Data → Prop
  | .float _ => False
  | .list items => ExactItems items
  | .mapping entries => ExactEntries entries
  | .null => True
  | .bool _ => True
  | .int _ => True
  | .text _ => True

def ExactItems : List Data → Prop
  | [] => True
  | x :: xs => Exact x ∧ ExactItems xs

def ExactEntries : List (String × Data) → Prop
  | [] => True
  | (_, x) :: es => Exact x ∧ ExactEntries es
end

mutual
def tokens : Data → List Token
  | .list [] => [.openList, .closeList]
  | .list (x :: xs) => .openList :: tokens x ++ tokensItems xs ++ [.closeList]
  | .mapping [] => [.openMapping, .closeMapping]
  | .mapping ((k, x) :: es) =>
    .openMapping :: .text k :: .colon :: tokens x ++ tokensEntries es ++ [.closeMapping]
  | .text s => [.text s]
  | .null => [.scalar .null]
  | .bool b => [.scalar (.bool b)]
  | .int n => [.scalar (.int n)]
  | .float x => [.scalar (.float x)]

def tokensItems : List Data → List Token
  | [] => []
  | x :: xs => .comma :: tokens x ++ tokensItems xs

def tokensEntries : List (String × Data) → List Token
  | [] => []
  | (k, x) :: es => .comma :: .text k :: .colon :: tokens x ++ tokensEntries es
end

/-! ## Strings -/

theorem readString_plain {c : Char} (quote : c ≠ '"') (backslash : c ≠ '\\')
    (control : ¬ c.toNat < 0x20) (rest : List Char) :
    readString (c :: rest) = push c (readString rest) := by
  rw [readString]
  · rw [if_neg (not_or.2 ⟨backslash, control⟩)]
  · exact quote
  · exact fun _ _ _ _ _ e _ => backslash e
  · exact fun _ _ e _ => backslash e

theorem readString_simpleEscape {e c : Char} (known : simpleEscape? e = some c)
    (rest : List Char) : readString ('\\' :: e :: rest) = push c (readString rest) := by
  have notUnit : e ≠ 'u' := by
    rintro rfl
    simp [simpleEscape?] at known
  rw [readString]
  · rw [known]
  · exact fun _ _ _ _ _ e _ => notUnit e

theorem readNat_hexDigits {n : Nat} (small : n < 0x20) :
    ∃ k l m p, Text.hexDigits 4 n = [k, l, m, p] ∧ Decimal.readNat 16 [k, l, m, p] = some n := by
  have all : ∀ n < 0x20, Decimal.readNat 16 (Text.hexDigits 4 n) = some n := by decide
  exact ⟨_, _, _, _, rfl, all n small⟩

theorem readString_escapeChar (c : Char) (rest : List Char) :
    readString (escapeChar c ++ rest) = push c (readString rest) := by
  unfold escapeChar
  split
  next h => rw [h]; exact readString_simpleEscape rfl rest
  split
  next h => rw [h]; exact readString_simpleEscape rfl rest
  split
  next h => rw [h]; exact readString_simpleEscape rfl rest
  split
  next h => rw [h]; exact readString_simpleEscape rfl rest
  split
  next h => rw [h]; exact readString_simpleEscape rfl rest
  split
  next h => rw [h]; exact readString_simpleEscape rfl rest
  split
  next h => rw [h]; exact readString_simpleEscape rfl rest
  split
  next control =>
    obtain ⟨k, l, m, p, digits, unit⟩ := readNat_hexDigits control
    have plane : c.toNat < 0xd800 ∨ 0xe000 ≤ c.toNat := by omega
    rw [digits]
    simp only [List.cons_append, List.nil_append]
    rw [readString, unit]
    simp only [if_pos plane, Char.ofNat_toNat]
  next quote backslash _ _ _ _ _ control => exact readString_plain quote backslash control rest

theorem readString_escaped (s rest : List Char) :
    readString (s.flatMap escapeChar ++ '"' :: rest) = some (s, rest) := by
  induction s with
  | nil => simp [readString]
  | cons c cs ih =>
    rw [List.flatMap_cons, List.append_assoc, readString_escapeChar, ih]
    rfl

/-! ## Numbers -/

theorem head?_toDigits {n : Nat} (positive : n ≠ 0) : (Nat.toDigits 10 n).head? ≠ some '0' := by
  induction n using Nat.strongRecOn with
  | ind n ih =>
    by_cases small : n < 10
    · rw [Nat.toDigits_of_lt_base small]
      intro first
      have zero : ∀ m < 10, Nat.digitChar m = '0' → m = 0 := by decide
      exact positive (zero n small (Option.some.inj first))
    · rw [Nat.toDigits_of_base_le (by decide) (by omega), List.head?_append]
      have shorter := ih (n / 10) (by omega) (by omega)
      cases digits : Nat.toDigits 10 (n / 10) with
      | nil => exact absurd digits Nat.toDigits_ne_nil
      | cons d ds =>
        rw [digits] at shorter
        simpa using shorter

theorem readUnsigned_toDigits (n : Nat) : readUnsigned (Nat.toDigits 10 n) = some (.inl n) := by
  have digit : ∀ c ∈ Nat.toDigits 10 n, c.isDigit = true := fun _ =>
    Nat.isDigit_of_mem_toDigits (by decide) (by decide)
  have whole : (Nat.toDigits 10 n).takeWhile Char.isDigit = Nat.toDigits 10 n :=
    List.takeWhile_eq_self_iff.2 digit
  have behind : (Nat.toDigits 10 n).dropWhile Char.isDigit = [] :=
    List.dropWhile_eq_nil_iff.2 digit
  have canonical : ¬ (Nat.toDigits 10 n = [] ∨
      ((Nat.toDigits 10 n).head? = some '0' ∧ Nat.toDigits 10 n ≠ ['0'])) := by
    rintro (empty | ⟨zero, more⟩)
    · exact Nat.toDigits_ne_nil empty
    · by_cases h : n = 0
      · rw [h] at more
        exact more (by decide)
      · exact head?_toDigits h zero
  rw [readUnsigned]
  simp only [whole, behind, if_neg canonical, Nat.ofDigitChars_ten_toDigits]

theorem readNumber_writeInt (n : Int) : readNumber (writeInt n) = some (.int n) := by
  rw [writeInt, Decimal.toList_toString]
  by_cases h : 0 ≤ n
  · have whole : (n.natAbs : Int) = n := by omega
    rw [if_pos h]
    unfold readNumber
    split
    next cs minus =>
      have digit : Char.isDigit '-' = true := by
        apply Nat.isDigit_of_mem_toDigits (b := 10) (n := n.natAbs) (by decide) (by decide)
        rw [minus]
        exact List.mem_cons_self
      exact absurd digit (by decide)
    next =>
      rw [readUnsigned_toDigits]
      simp only [whole]
  · have negative : -(n.natAbs : Int) = n := by omega
    rw [if_neg h, readNumber, readUnsigned_toDigits]
    simp only [negative]

theorem readWord_writeInt (n : Int) : readWord (writeInt n) = some (.int n) := by
  have noName {c : Char} {w : List Char} (hc : c ∈ w)
      (letter : ¬ (c.isDigit = true ∨ c = '-')) : writeInt n ≠ w := by
    rintro rfl
    exact letter (Decimal.isDigit_or_minus_of_mem hc)
  rw [readWord, if_neg (noName (c := 'n') (by simp) (by decide)),
    if_neg (noName (c := 't') (by simp) (by decide)),
    if_neg (noName (c := 'f') (by simp) (by decide)), readNumber_writeInt]

theorem isWordChar_of_mem_writeInt {n : Int} {c : Char} (h : c ∈ writeInt n) :
    isWordChar c = true := by
  have ne (d : Char) (other : ¬ (d.isDigit = true ∨ d = '-')) : c ≠ d := by
    rintro rfl
    exact other (Decimal.isDigit_or_minus_of_mem h)
  have mark : punctuation? c = none := by
    unfold punctuation?
    split
    · exact absurd rfl (ne '[' (by decide))
    · exact absurd rfl (ne ']' (by decide))
    · exact absurd rfl (ne '\x7b' (by decide))
    · exact absurd rfl (ne '\x7d' (by decide))
    · exact absurd rfl (ne ',' (by decide))
    · exact absurd rfl (ne ':' (by decide))
    · rfl
  simp [isWordChar, isSpace, mark, ne ' ' (by decide), ne '\n' (by decide), ne '\r' (by decide),
    ne '\t' (by decide), ne '"' (by decide)]

/-! ## The tokens of a text -/

def Stops (rest : List Char) : Prop := ∀ c ∈ rest.head?, isWordChar c = false

theorem lex_newline (depth : Nat) (rest : List Char) : lex (newline depth ++ rest) = lex rest := by
  have blanks (k : Nat) : lex (List.replicate k ' ' ++ rest) = lex rest := by
    induction k with
    | zero => rfl
    | succ k ih =>
      rw [List.replicate_succ, List.cons_append, lex, if_pos (by rfl), ih]
  rw [newline, List.cons_append, lex, if_pos (by rfl), blanks]

theorem lex_punctuation {c : Char} {t : Token} (known : punctuation? c = some t)
    (space : isSpace c = false) (quote : c ≠ '"') (rest : List Char) :
    lex (c :: rest) = (lex rest).map (t :: ·) := by
  rw [lex, if_neg (by simp [space]), if_neg quote, known]

theorem lex_writeString (s : String) (rest : List Char) :
    lex (writeString s ++ rest) = (lex rest).map (.text s :: ·) := by
  have escaped := readString_escaped s.toList rest
  rw [writeString, List.cons_append, List.cons_append, List.append_assoc, List.singleton_append,
    lex, if_neg (by decide), if_pos rfl]
  split
  next failed => rw [escaped] at failed; cases failed
  next chars behind found =>
    rw [escaped] at found
    cases found
    rw [String.ofList_toList]

theorem lex_word {w rest : List Char} {d : Data} (nonempty : w ≠ [])
    (inside : ∀ c ∈ w, isWordChar c = true) (reads : readWord w = some d) (stops : Stops rest) :
    lex (w ++ rest) = (lex rest).map (.scalar d :: ·) := by
  cases w with
  | nil => exact absurd rfl nonempty
  | cons c cs =>
    have first := inside c List.mem_cons_self
    have later : ∀ e ∈ cs, isWordChar e = true := fun e he => inside e (List.mem_cons_of_mem _ he)
    simp only [isWordChar, Bool.and_eq_true, Bool.not_eq_true', bne_iff_ne,
      Option.isNone_iff_eq_none] at first
    obtain ⟨⟨space, quote⟩, mark⟩ := first
    have behind : rest.takeWhile isWordChar = [] ∧ rest.dropWhile isWordChar = rest := by
      cases rest with
      | nil => exact ⟨rfl, rfl⟩
      | cons e es => simp [stops e rfl]
    rw [List.cons_append, lex, if_neg (by simp [space]), if_neg quote, mark]
    simp only
    rw [List.takeWhile_append_of_pos later, List.dropWhile_append_of_pos later, behind.1, behind.2,
      List.append_nil, reads]
    cases lex rest <;> rfl

theorem stops_cons {c : Char} (ends : isWordChar c = false) (rest : List Char) :
    Stops (c :: rest) := by
  intro d hd
  obtain rfl := Option.some.inj hd
  exact ends

theorem stops_newline (depth : Nat) (rest : List Char) : Stops (newline depth ++ rest) :=
  stops_cons rfl _

theorem stops_writeItems (depth below : Nat) (xs : List Data) (rest : List Char) :
    Stops (writeItems depth xs ++ (newline below ++ rest)) := by
  cases xs with
  | nil => exact stops_newline below rest
  | cons x xs => exact stops_cons rfl _

theorem stops_writeEntries (depth below : Nat) (es : List (String × Data)) (rest : List Char) :
    Stops (writeEntries depth es ++ (newline below ++ rest)) := by
  cases es with
  | nil => exact stops_newline below rest
  | cons e es => exact stops_cons rfl _

theorem lex_space (rest : List Char) : lex (' ' :: rest) = lex rest := by
  rw [lex, if_pos (by rfl)]

mutual
theorem lex_write : ∀ (d : Data) (depth : Nat) (rest : List Char), Exact d → Stops rest →
    lex (write depth d ++ rest) = (lex rest).map (tokens d ++ ·)
  | .null, depth, rest, _, stops => by
    have letters : ∀ c ∈ "null".toList, isWordChar c = true := by
      simp [isWordChar, isSpace, punctuation?]
    rw [write]
    exact lex_word (by simp) letters (by simp [readWord]) stops
  | .bool true, depth, rest, _, stops => by
    have letters : ∀ c ∈ "true".toList, isWordChar c = true := by
      simp [isWordChar, isSpace, punctuation?]
    rw [write]
    exact lex_word (by simp) letters (by simp [readWord]) stops
  | .bool false, depth, rest, _, stops => by
    have letters : ∀ c ∈ "false".toList, isWordChar c = true := by
      simp [isWordChar, isSpace, punctuation?]
    rw [write]
    exact lex_word (by simp) letters (by simp [readWord]) stops
  | .int n, depth, rest, _, stops => by
    have nonempty : writeInt n ≠ [] := by
      rw [writeInt, Decimal.toList_toString]
      split
      · exact Nat.toDigits_ne_nil
      · exact List.cons_ne_nil _ _
    rw [write]
    exact lex_word nonempty (fun _ => isWordChar_of_mem_writeInt) (readWord_writeInt n) stops
  | .float _, _, _, exact, _ => absurd exact id
  | .text s, depth, rest, _, _ => by
    rw [write, lex_writeString]
    rfl
  | .list [], depth, rest, _, _ => by
    rw [write, List.cons_append, lex_punctuation rfl rfl (by simp), List.cons_append,
      lex_punctuation rfl rfl (by simp), Option.map_map]
    rfl
  | .list (x :: xs), depth, rest, exact, _ => by
    simp only [write, List.cons_append, List.append_assoc, List.nil_append]
    rw [lex_punctuation rfl rfl (by simp), lex_newline,
      lex_write x _ _ exact.1 (stops_writeItems _ _ _ _), lex_writeItems xs _ _ _ exact.2,
      lex_newline, lex_punctuation rfl rfl (by simp)]
    simp only [Option.map_map]
    congr 1
    funext ts
    simp [tokens]
  | .mapping [], depth, rest, _, _ => by
    rw [write, List.cons_append, lex_punctuation rfl rfl (by simp), List.cons_append,
      lex_punctuation rfl rfl (by simp), Option.map_map]
    rfl
  | .mapping ((k, x) :: es), depth, rest, exact, _ => by
    simp only [write, List.cons_append, List.append_assoc, List.nil_append]
    rw [lex_punctuation rfl rfl (by simp), lex_newline, lex_writeString,
      lex_punctuation rfl rfl (by simp), lex_space,
      lex_write x _ _ exact.1 (stops_writeEntries _ _ _ _), lex_writeEntries es _ _ _ exact.2,
      lex_newline, lex_punctuation rfl rfl (by simp)]
    simp only [Option.map_map]
    congr 1
    funext ts
    simp [tokens]

theorem lex_writeItems : ∀ (xs : List Data) (depth below : Nat) (rest : List Char), ExactItems xs →
    lex (writeItems depth xs ++ (newline below ++ rest)) =
      (lex (newline below ++ rest)).map (tokensItems xs ++ ·)
  | [], _, _, _, _ => by simp [writeItems, tokensItems]
  | x :: xs, depth, below, rest, exact => by
    simp only [writeItems, List.cons_append, List.append_assoc]
    rw [lex_punctuation rfl rfl (by simp), lex_newline,
      lex_write x _ _ exact.1 (stops_writeItems _ _ _ _), lex_writeItems xs _ _ _ exact.2]
    simp only [Option.map_map]
    congr 1
    funext ts
    simp [tokensItems]

theorem lex_writeEntries : ∀ (es : List (String × Data)) (depth below : Nat) (rest : List Char),
    ExactEntries es → lex (writeEntries depth es ++ (newline below ++ rest)) =
      (lex (newline below ++ rest)).map (tokensEntries es ++ ·)
  | [], _, _, _, _ => by simp [writeEntries, tokensEntries]
  | (k, x) :: es, depth, below, rest, exact => by
    simp only [writeEntries, List.cons_append, List.append_assoc, List.nil_append]
    rw [lex_punctuation rfl rfl (by simp), lex_newline, lex_writeString,
      lex_punctuation rfl rfl (by simp), lex_space,
      lex_write x _ _ exact.1 (stops_writeEntries _ _ _ _), lex_writeEntries es _ _ _ exact.2]
    simp only [Option.map_map]
    congr 1
    funext ts
    simp [tokensEntries]
end

/-! ## The value of the tokens -/

theorem step_of_due {mode : Mode} (due : mode = .value ∨ mode = .firstItem) (stack : List Frame)
    {t : Token} (opens : t ≠ .closeList) : step (mode, stack) t = begin stack t := by
  rcases due with rfl | rfl
  · rfl
  · cases stack with
    | nil => cases t <;> rfl
    | cons f stack =>
      cases f with
      | mapping entries k => cases t <;> rfl
      | list items =>
        cases t with
        | closeList => exact absurd rfl opens
        | _ => rfl

mutual
/-- The tokens of a value complete it on top of any stack. -/
theorem foldlM_tokens : ∀ (d : Data) (mode : Mode) (stack : List Frame),
    mode = .value ∨ mode = .firstItem →
      (tokens d).foldlM step (mode, stack) = some (.after d, stack)
  | .null, mode, stack, due => by
    rw [tokens, List.foldlM_cons, step_of_due due stack (by simp)]
    rfl
  | .bool b, mode, stack, due => by
    rw [tokens, List.foldlM_cons, step_of_due due stack (by simp)]
    rfl
  | .int n, mode, stack, due => by
    rw [tokens, List.foldlM_cons, step_of_due due stack (by simp)]
    rfl
  | .float x, mode, stack, due => by
    rw [tokens, List.foldlM_cons, step_of_due due stack (by simp)]
    rfl
  | .text s, mode, stack, due => by
    rw [tokens, List.foldlM_cons, step_of_due due stack (by simp)]
    rfl
  | .list [], mode, stack, due => by
    rw [tokens, List.foldlM_cons, step_of_due due stack (by simp)]
    rfl
  | .list (x :: xs), mode, stack, due => by
    have first := foldlM_tokens x .firstItem (.list [] :: stack) (Or.inr rfl)
    have later := foldlM_tokensItems xs x [] stack
    rw [tokens, List.cons_append, List.cons_append, List.foldlM_cons,
      step_of_due due stack (by simp), List.append_assoc]
    change List.foldlM step (.firstItem, .list [] :: stack)
      (tokens x ++ (tokensItems xs ++ [.closeList])) = _
    rw [List.foldlM_append, first]
    exact later
  | .mapping [], mode, stack, due => by
    rw [tokens, List.foldlM_cons, step_of_due due stack (by simp)]
    rfl
  | .mapping ((k, x) :: es), mode, stack, due => by
    have first := foldlM_tokens x .value (.mapping [] k :: stack) (Or.inl rfl)
    have later := foldlM_tokensEntries es k x [] stack
    rw [tokens, List.cons_append, List.cons_append, List.foldlM_cons,
      step_of_due due stack (by simp), List.append_assoc]
    change List.foldlM step (.value, .mapping [] k :: stack)
      (tokens x ++ (tokensEntries es ++ [.closeMapping])) = _
    rw [List.foldlM_append, first]
    exact later

theorem foldlM_tokensItems : ∀ (xs : List Data) (d : Data) (items : List Data)
    (stack : List Frame),
    (tokensItems xs ++ [Token.closeList]).foldlM step (.after d, .list items :: stack) =
      some (.after (.list (items ++ d :: xs)), stack)
  | [], d, items, stack => rfl
  | x :: xs, d, items, stack => by
    have first := foldlM_tokens x .value (.list (items ++ [d]) :: stack) (Or.inl rfl)
    have later := foldlM_tokensItems xs x (items ++ [d]) stack
    rw [tokensItems, List.cons_append, List.cons_append, List.append_assoc]
    change List.foldlM step (.value, .list (items ++ [d]) :: stack)
      (tokens x ++ (tokensItems xs ++ [.closeList])) = _
    rw [List.foldlM_append, first]
    simpa using later

theorem foldlM_tokensEntries : ∀ (es : List (String × Data)) (k : String) (d : Data)
    (entries : List (String × Data)) (stack : List Frame),
    (tokensEntries es ++ [Token.closeMapping]).foldlM step (.after d, .mapping entries k :: stack) =
      some (.after (.mapping (entries ++ (k, d) :: es)), stack)
  | [], k, d, entries, stack => rfl
  | (l, x) :: es, k, d, entries, stack => by
    have first := foldlM_tokens x .value (.mapping (entries ++ [(k, d)]) l :: stack) (Or.inl rfl)
    have later := foldlM_tokensEntries es l x (entries ++ [(k, d)]) stack
    rw [tokensEntries, List.cons_append, List.cons_append, List.cons_append, List.cons_append,
      List.append_assoc]
    change List.foldlM step (.value, .mapping (entries ++ [(k, d)]) l :: stack)
      (tokens x ++ (tokensEntries es ++ [.closeMapping])) = _
    rw [List.foldlM_append, first]
    simpa using later
end

theorem read_document {d : Data} (exact : Exact d) : read (document d) = some d := by
  have ends : lex ['\n'] = some [] := by
    rw [lex, if_pos (by rfl), lex]
  have stops : Stops ['\n'] := stops_cons rfl []
  have tokenised : lex (write 0 d ++ ['\n']) = some (tokens d) := by
    rw [lex_write d 0 _ exact stops, ends]
    simp
  rw [read, document, String.toList_ofList, tokenised]
  simp only [bind, Option.bind]
  rw [foldlM_tokens d .value [] (Or.inl rfl)]

end DocPages.Json
