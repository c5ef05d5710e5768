import Mathlib
import Tabular.Text.Word

/-! Digits: the value they are read as, and the digits that naturals are written with. -/

set_option autoImplicit false

namespace Tabular.Text

theorem digitsValue_eq_ofDigitChars (digits : List Char) (start : Nat) :
    digitsValue digits start = Nat.ofDigitChars 10 digits start := by
  rw [Nat.ofDigitChars_eq_foldl]
  simp only [digitsValue, Nat.mul_comm]

theorem digitsValue_append (first second : List Char) (start : Nat) :
    digitsValue (first ++ second) start = digitsValue second (digitsValue first start) :=
  List.foldl_append

theorem digitsValue_zeros (count start : Nat) :
    digitsValue (List.replicate count '0') start = start * 10 ^ count := by
  rw [digitsValue_eq_ofDigitChars, Nat.ofDigitChars_replicate_zero, Nat.mul_comm]

theorem digitsValue_toDigits (n : Nat) : digitsValue (Nat.toDigits 10 n) 0 = n := by
  rw [digitsValue_eq_ofDigitChars, Nat.ofDigitChars_ten_toDigits]

theorem isAsciiDigit_of_mem_toDigits {n : Nat} {c : Char} (member : c ∈ Nat.toDigits 10 n) :
    isAsciiDigit c = true :=
  Nat.isDigit_of_mem_toDigits (by decide) (by decide) member

theorem head?_toDigits_ne_zero {n : Nat} (nonzero : n ≠ 0) :
    (Nat.toDigits 10 n).head? ≠ some '0' := by
  induction n using Nat.strongRecOn with
  | ind n ih =>
    rw [Nat.toDigits_eq_if (by decide)]
    split
    next => simpa using nonzero
    next large =>
      obtain ⟨first, others, digits⟩ :=
        List.exists_cons_of_ne_nil (Nat.toDigits_ne_nil (n := n / 10) (b := 10))
      have head := ih (n / 10) (by omega) (by omega)
      rw [digits] at head ⊢
      exact head

/-! ## Printed integers -/

theorem toList_toString_natCast (n : Nat) : (toString (n : Int)).toList = Nat.toDigits 10 n := by
  change (toString n).toList = _
  rw [Nat.toString_eq_ofList_toDigits, String.toList_ofList]

theorem toList_toString_neg {n : Nat} (positive : 0 < n) :
    (toString (-n : Int)).toList = '-' :: Nat.toDigits 10 n := by
  obtain ⟨less, rfl⟩ := Nat.exists_eq_add_one_of_ne_zero (Nat.ne_zero_of_lt positive)
  change ("-" ++ toString (less + 1)).toList = _
  rw [String.toList_append, Nat.toString_eq_ofList_toDigits, String.toList_ofList,
    String.toList_ofList]
  rfl

end Tabular.Text
