import DocPages.Decimal.Layout
import Std.Data.String.ToInt
/-! # Decimal digits

Whole numbers are written with digits alone, padded or not, and the digits tell the number. -/
set_option autoImplicit false
namespace DocPages.Decimal

theorem isDigit_of_mem_padded {width n : Nat} {c : Char} (h : c ∈ padded width n) :
    c.isDigit = true := by
  rcases List.mem_append.1 h with zero | digit
  · rw [List.eq_of_mem_replicate zero]
    decide
  · exact Nat.isDigit_of_mem_toDigits (by decide) (by decide) digit

theorem ofDigitChars_padded (width n : Nat) : Nat.ofDigitChars 10 (padded width n) 0 = n := by
  rw [padded, Nat.ofDigitChars_append, zeros, Nat.ofDigitChars_replicate_zero, Nat.mul_zero,
    Nat.ofDigitChars_ten_toDigits]

theorem padded_injective {width n m : Nat} (h : padded width n = padded width m) : n = m := by
  rw [← ofDigitChars_padded width n, h, ofDigitChars_padded]

theorem toList_toString (n : Int) : (toString n).toList =
    if 0 ≤ n then Nat.toDigits 10 n.natAbs else '-' :: Nat.toDigits 10 n.natAbs := by
  rw [Int.toString_eq_repr, Int.repr_eq_if]
  by_cases h : 0 ≤ n
  · have size : n.toNat = n.natAbs := by omega
    simp [h, size]
  · have size : (-n).toNat = n.natAbs := by omega
    simp [h, size]

theorem isDigit_or_minus_of_mem {n : Int} {c : Char} (h : c ∈ (toString n).toList) :
    c.isDigit = true ∨ c = '-' := by
  have digit {c : Char} (h : c ∈ Nat.toDigits 10 n.natAbs) : c.isDigit = true :=
    Nat.isDigit_of_mem_toDigits (by decide) (by decide) h
  rw [toList_toString] at h
  split at h
  · exact Or.inl (digit h)
  · rcases List.mem_cons.1 h with minus | h
    · exact Or.inr minus
    · exact Or.inl (digit h)

end DocPages.Decimal
