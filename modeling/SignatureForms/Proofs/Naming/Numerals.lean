import Mathlib.Data.List.Induction

/-!
# Texts that end in a number

Names and keys are told apart by a decimal number at their end. This module collects how such texts
can be read back.

## Main results

* `toDigits_inj`: a number can be read back from its digits;
* `exists_toDigits_of_append`: what is left of a numeral when its last digits are cut off is a
  numeral too, of a smaller number.
-/

namespace SignatureForms.Naming

/-- A number is written with its decimal digits. -/
theorem toList_toString (n : Nat) : (toString n).toList = Nat.toDigits 10 n := by
  rw [Nat.toString_eq_ofList_toDigits, String.toList_ofList]

/-- Different numbers have different digits. -/
theorem toDigits_inj {m n : Nat} : Nat.toDigits 10 m = Nat.toDigits 10 n ↔ m = n := by
  refine ⟨fun h => ?_, fun h => by rw [h]⟩
  have hread := congrArg (fun digits => Nat.ofDigitChars 10 digits 0) h
  simpa only [Nat.ofDigitChars_ten_toDigits] using hread

/-- What is left of a numeral when its last digits are cut off is the numeral of a number that is
no larger, and not zero unless the whole number is. -/
theorem exists_toDigits_of_append {n : Nat} {front back : List Char} (hfront : front ≠ [])
    (h : Nat.toDigits 10 n = front ++ back) :
    ∃ m, front = Nat.toDigits 10 m ∧ m ≤ n ∧ (0 < n → 0 < m) := by
  -- on the digits that are cut off, from the last one on: each cut divides the number by ten
  induction back using List.reverseRecOn generalizing n with
  | nil =>
    rw [List.append_nil] at h
    exact ⟨n, h.symm, Nat.le_refl n, id⟩
  | append_singleton back digit ih =>
    have hlarge : 10 ≤ n := by
      by_contra hsmall
      have hlength := congrArg List.length h
      rw [Nat.toDigits_of_lt_base (Nat.not_le.1 hsmall)] at hlength
      simp only [List.length_append, List.length_singleton] at hlength
      exact hfront (List.length_eq_zero_iff.1 (by omega))
    rw [Nat.toDigits_of_base_le (by decide) hlarge, ← List.append_assoc] at h
    obtain ⟨m, rfl, hle, hpos⟩ := ih (List.append_inj' h rfl).1
    refine ⟨m, rfl, Nat.le_trans hle (Nat.div_le_self n 10), fun _ => hpos ?_⟩
    exact Nat.div_pos hlarge (by decide)

end SignatureForms.Naming
