import Mathlib.Data.List.Basic
/-! # Cutting at a delimiter

A text up to the first place of a character, and the text behind that place.  Where the character is
absent from what stands before it, the cut is exact (`upTo_append`, `beyond_append`).  Two texts with
such cuts are equal only piece by piece, read from the front or from the end. -/
set_option autoImplicit false
namespace DocPages.Text

def upTo (d : Char) (cs : List Char) : List Char := cs.takeWhile (· != d)

def beyond (d : Char) (cs : List Char) : List Char := (cs.dropWhile (· != d)).tail

theorem ne_of_notMem {d : Char} {xs : List Char} (h : d ∉ xs) : ∀ c ∈ xs, (c != d) = true := by
  intro c hc
  rw [bne_iff_ne]
  rintro rfl
  exact h hc

theorem upTo_append {d : Char} {xs : List Char} (h : d ∉ xs) (ys : List Char) :
    upTo d (xs ++ d :: ys) = xs := by
  rw [upTo, List.takeWhile_append_of_pos (ne_of_notMem h)]
  simp

theorem beyond_append {d : Char} {xs : List Char} (h : d ∉ xs) (ys : List Char) :
    beyond d (xs ++ d :: ys) = ys := by
  rw [beyond, List.dropWhile_append_of_pos (ne_of_notMem h)]
  simp

theorem length_beyond_le (d : Char) (cs : List Char) : (beyond d cs).length ≤ cs.length := by
  have dropped : (cs.dropWhile (· != d)).length ≤ cs.length :=
    (List.dropWhile_sublist _).length_le
  rw [beyond, List.length_tail]
  omega

/-! ## Equal texts in pieces -/

theorem append_inj_of_stop {p : Char → Bool} {xs xs' ys ys' : List Char}
    (inside : ∀ c ∈ xs, p c = true) (inside' : ∀ c ∈ xs', p c = true)
    (stop : ∀ c ∈ ys.head?, p c = false) (stop' : ∀ c ∈ ys'.head?, p c = false)
    (same : xs ++ ys = xs' ++ ys') : xs = xs' ∧ ys = ys' := by
  have ends (zs : List Char) (h : ∀ c ∈ zs.head?, p c = false) :
      zs.takeWhile p = [] ∧ zs.dropWhile p = zs := by
    cases zs with
    | nil => exact ⟨rfl, rfl⟩
    | cons c cs => simp [h c rfl]
  have front := congrArg (List.takeWhile p) same
  have back := congrArg (List.dropWhile p) same
  rw [List.takeWhile_append_of_pos inside, List.takeWhile_append_of_pos inside', (ends ys stop).1,
    (ends ys' stop').1, List.append_nil, List.append_nil] at front
  rw [List.dropWhile_append_of_pos inside, List.dropWhile_append_of_pos inside', (ends ys stop).2,
    (ends ys' stop').2] at back
  exact ⟨front, back⟩

theorem append_inj_of_start {p : Char → Bool} {xs xs' ys ys' : List Char}
    (inside : ∀ c ∈ ys, p c = true) (inside' : ∀ c ∈ ys', p c = true)
    (stop : ∀ c ∈ xs.getLast?, p c = false) (stop' : ∀ c ∈ xs'.getLast?, p c = false)
    (same : xs ++ ys = xs' ++ ys') : xs = xs' ∧ ys = ys' := by
  have mirrored : ys.reverse ++ xs.reverse = ys'.reverse ++ xs'.reverse := by
    rw [← List.reverse_append, same, List.reverse_append]
  obtain ⟨back, front⟩ := append_inj_of_stop (p := p)
    (fun c h => inside c (List.mem_reverse.1 h)) (fun c h => inside' c (List.mem_reverse.1 h))
    (by rwa [List.head?_reverse]) (by rwa [List.head?_reverse]) mirrored
  exact ⟨List.reverse_injective front, List.reverse_injective back⟩

theorem stop_append {p : Char → Bool} {a : List Char} {d : Char} (first : a.head? = some d)
    (outside : p d = false) (xs : List Char) : ∀ c ∈ (a ++ xs).head?, p c = false := by
  cases a with
  | nil => cases first
  | cons e es =>
    intro c hc
    obtain rfl := Option.some.inj first
    obtain rfl := Option.some.inj hc
    exact outside

theorem start_append {p : Char → Bool} {a : List Char} {d : Char} (last : a.getLast? = some d)
    (outside : p d = false) (xs : List Char) : ∀ c ∈ (xs ++ a).getLast?, p c = false := by
  intro c hc
  rw [List.getLast?_append, last] at hc
  obtain rfl := Option.some.inj hc
  exact outside

theorem append_ne_append {a b : List Char} (n : Nat) (ha : n ≤ a.length) (hb : n ≤ b.length)
    (differ : a.take n ≠ b.take n) (xs ys : List Char) : a ++ xs ≠ b ++ ys := by
  intro same
  have starts := congrArg (List.take n) same
  rw [List.take_append_of_le_length ha, List.take_append_of_le_length hb] at starts
  exact differ starts

end DocPages.Text
