import DocPages.Instant
import DocPages.Proofs.Decimal.Digits
import DocPages.Proofs.Text.Cut
/-! # Timestamps

A timestamp tells the instant: no field holds the mark that ends it, and a fraction is there exactly
when there is something to tell. -/
set_option autoImplicit false
namespace DocPages.Instant

open Decimal (padded)

theorem padded_append_inj {width n m : Nat} {a ys ys' : List Char} {d : Char}
    (first : a.head? = some d) (mark : d.isDigit = false)
    (same : padded width n ++ (a ++ ys) = padded width m ++ (a ++ ys')) : n = m ∧ ys = ys' := by
  obtain ⟨number, rest⟩ := Text.append_inj_of_stop (p := Char.isDigit)
    (fun _ => Decimal.isDigit_of_mem_padded) (fun _ => Decimal.isDigit_of_mem_padded)
    (Text.stop_append first mark ys) (Text.stop_append first mark ys') same
  exact ⟨Decimal.padded_injective number, List.append_cancel_left rest⟩

def fraction (microsecond : Nat) : List Char :=
  if microsecond = 0 then [] else '.' :: padded 6 microsecond

theorem fraction_injective {n m : Nat} (same : fraction n = fraction m) : n = m := by
  unfold fraction at same
  by_cases hn : n = 0
  · by_cases hm : m = 0
    · rw [hn, hm]
    · simp [hn, hm] at same
  · by_cases hm : m = 0
    · simp [hn, hm] at same
    · rw [if_neg hn, if_neg hm] at same
      exact Decimal.padded_injective (List.cons.inj same).2

theorem stop_fraction (n : Nat) :
    ∀ c ∈ (fraction n ++ "+00:00".toList).head?, c.isDigit = false := by
  unfold fraction
  by_cases hn : n = 0
  · rw [if_pos hn]
    exact Text.stop_append (a := "+00:00".toList) rfl rfl []
  · rw [if_neg hn]
    exact Text.stop_append (a := ['.']) rfl rfl _

theorem toList_timestamp (t : Instant) : t.timestamp.toList =
    padded 4 t.year ++ ("-".toList ++ (padded 2 t.month ++ ("-".toList ++ (padded 2 t.day
      ++ ("T".toList ++ (padded 2 t.hour ++ (":".toList ++ (padded 2 t.minute
        ++ (":".toList ++ (padded 2 t.second
          ++ (fraction t.microsecond ++ "+00:00".toList))))))))))) := by
  have written : (if t.microsecond = 0 then "" else "." ++ digits 6 t.microsecond).toList =
      fraction t.microsecond := by
    unfold fraction
    by_cases h : t.microsecond = 0
    · simp [h]
    · simp [h, digits]
  simp only [timestamp, String.toList_append, written]
  simp only [digits, String.toList_ofList, List.append_assoc]

theorem timestamp_injective {s t : Instant} (same : s.timestamp = t.timestamp) : s = t := by
  have chars := congrArg String.toList same
  rw [toList_timestamp, toList_timestamp] at chars
  obtain ⟨year, chars⟩ := padded_append_inj rfl rfl chars
  obtain ⟨month, chars⟩ := padded_append_inj rfl rfl chars
  obtain ⟨day, chars⟩ := padded_append_inj rfl rfl chars
  obtain ⟨hour, chars⟩ := padded_append_inj rfl rfl chars
  obtain ⟨minute, chars⟩ := padded_append_inj rfl rfl chars
  obtain ⟨second, chars⟩ := Text.append_inj_of_stop (p := Char.isDigit)
    (fun _ => Decimal.isDigit_of_mem_padded) (fun _ => Decimal.isDigit_of_mem_padded)
    (stop_fraction s.microsecond) (stop_fraction t.microsecond) chars
  have microsecond := fraction_injective (List.append_cancel_right chars)
  have second := Decimal.padded_injective second
  cases s
  cases t
  simp_all

end DocPages.Instant
