import ReachMixture.Decimal.Layout
import ReachMixture.Decimal.Reader

/-!
# Digits and naturals

Digits are read in halves, so that large numbers are multiplied with each other.
However often the digits are halved, the value is the same.

- `digitsValue_eq`: the value of digits, one by one.
- `wholeNumber_digitText`: **naturals read back**.
-/

namespace ReachMixture.Decimal

/-- The value of `high ++ low` is that of `high` shifted by the digits of `low`,
plus that of `low`. -/
theorem ofDigitChars_join (high low : List Char) :
    Nat.ofDigitChars 10 (high ++ low) 0 =
      Nat.ofDigitChars 10 high 0 * Nat.pow 10 low.length + Nat.ofDigitChars 10 low 0 := by
  rw [Nat.ofDigitChars_append, Nat.ofDigitChars_eq_ofDigitChars_zero, Nat.mul_comm]
  rfl

/-- `digitsValueBy` does not depend on `halvings`: it is `Nat.ofDigitChars`. -/
theorem digitsValueBy_eq (halvings : Nat) (digits : List Char) :
    digitsValueBy halvings digits = Nat.ofDigitChars 10 digits 0 := by
  induction halvings generalizing digits with
  | zero => rfl
  | succ halvings ih =>
    rw [digitsValueBy]
    dsimp only
    rw [List.splitAt_eq, ih, ih]
    have hlength : (digits.drop (digits.length - digits.length / 2)).length =
        digits.length / 2 := by
      rw [List.length_drop]
      omega
    have hjoin := ofDigitChars_join (digits.take (digits.length - digits.length / 2))
      (digits.drop (digits.length - digits.length / 2))
    rw [List.take_append_drop, hlength] at hjoin
    exact hjoin.symm

theorem digitsValue_eq (digits : List Char) :
    digitsValue digits = Nat.ofDigitChars 10 digits 0 :=
  digitsValueBy_eq _ digits

theorem digitsValue_digitText (n : Nat) : digitsValue (digitText n) = n := by
  rw [digitsValue_eq]
  exact Nat.ofDigitChars_ten_toDigits

theorem isDigit_of_mem_digitText {n : Nat} {c : Char}
    (h : c ∈ digitText n) : c.isDigit = true :=
  Nat.isDigit_of_mem_toDigits (by decide) (by decide) h

theorem digitText_ne_nil (n : Nat) : digitText n ≠ [] := Nat.toDigits_ne_nil

/-- **Naturals read back**: `wholeNumber?` undoes `digitText`. -/
theorem wholeNumber_digitText (n : Nat) : wholeNumber? (digitText n) = some n := by
  have hdigits : (digitText n).all Char.isDigit = true :=
    List.all_eq_true.mpr fun _ => isDigit_of_mem_digitText
  rw [wholeNumber?, hdigits, List.isEmpty_eq_false_iff.mpr (digitText_ne_nil n),
    digitsValue_digitText]
  rfl

theorem toList_toString (n : Nat) : (toString n).toList = digitText n := by
  rw [Nat.toString_eq_ofList_toDigits, String.toList_ofList]
  rfl

theorem digitText_injective {n n' : Nat} (h : digitText n = digitText n') : n = n' := by
  rw [← digitsValue_digitText n, h, digitsValue_digitText]

end ReachMixture.Decimal
