import Tabular.Proofs.Number.Exact

/-! Comparisons of numbers.

Numbers that are not NaN compare as their signed counts of units do, so of any two one is less, or
they are equal, or one is greater. No comparison holds of NaN.
-/

set_option autoImplicit false

namespace Tabular.Number

open Float.Model (UnpackedFloat)

variable {x y : Float}

theorem le_iff_compare_unpack (x y : Float) :
    x ≤ y ↔ (x.toModel.unpack.compare y.toModel.unpack).any Ordering.isLE = true := by
  change decide ((x.toModel.unpack.compare y.toModel.unpack).any Ordering.isLE = true) = true ↔ _
  rw [decide_eq_true_iff]

theorem beq_iff_compare_unpack (x y : Float) :
    (x == y) = true ↔ x.toModel.unpack.compare y.toModel.unpack = some .eq := by
  change (x.toModel.unpack.compare y.toModel.unpack == some .eq) = true ↔ _
  rw [beq_iff_eq]

section Numbers

variable (number : x.isNaN = false) (other : y.isNaN = false)

include number other

theorem le_iff_signedUnits_le : x ≤ y ↔ signedUnits x ≤ signedUnits y := by
  rw [le_iff_compare_unpack, compare_unpack number other, Option.any_some, Int.isLE_compare]

theorem beq_iff_signedUnits_eq : (x == y) = true ↔ signedUnits x = signedUnits y := by
  rw [beq_iff_compare_unpack, compare_unpack number other, Option.some.injEq, compare_eq_iff_eq]

theorem beq_iff_value_eq : (x == y) = true ↔ value x = value y := by
  rw [beq_iff_signedUnits_eq number other, value_eq_value number other]

end Numbers

section Missing

variable (missing : x.isNaN = true ∨ y.isNaN = true)

include missing

theorem compare_unpack_eq_none : x.toModel.unpack.compare y.toModel.unpack = none := by
  rw [isNaN_iff, isNaN_iff] at missing
  rcases missing with first | second
  · rw [first]
    rfl
  · rw [second]
    cases x.toModel.unpack <;> rfl

theorem not_lt_of_isNaN : ¬x < y := by
  rw [lt_iff_compare_unpack, compare_unpack_eq_none missing]
  exact nofun

theorem not_le_of_isNaN : ¬x ≤ y := by
  rw [le_iff_compare_unpack, compare_unpack_eq_none missing]
  exact nofun

theorem beq_of_isNaN : (x == y) = false := by
  rw [Bool.eq_false_iff, ne_eq, beq_iff_compare_unpack, compare_unpack_eq_none missing]
  exact nofun

end Missing

theorem atMost_self (number : x.isNaN = false) : x ≤ x :=
  (le_iff_signedUnits_le number number).mpr (Int.le_refl _)

theorem isNaN_eq_false_of_le (below : x ≤ y) : x.isNaN = false ∧ y.isNaN = false := by
  constructor
  · exact Bool.eq_false_iff.mpr fun missing => not_le_of_isNaN (.inl missing) below
  · exact Bool.eq_false_iff.mpr fun missing => not_le_of_isNaN (.inr missing) below

theorem atMost_trans {z : Float} (below : x ≤ y) (above : y ≤ z) : x ≤ z := by
  obtain ⟨first, second⟩ := isNaN_eq_false_of_le below
  obtain ⟨-, third⟩ := isNaN_eq_false_of_le above
  rw [le_iff_signedUnits_le first second] at below
  rw [le_iff_signedUnits_le second third] at above
  exact (le_iff_signedUnits_le first third).mpr (Int.le_trans below above)

theorem atMost_of_not_lt (number : x.isNaN = false) (other : y.isNaN = false) (notLess : ¬x < y) :
    y ≤ x := by
  rw [lt_iff_signedUnits_lt number other] at notLess
  exact (le_iff_signedUnits_le other number).mpr (Int.not_lt.mp notLess)

theorem atMost_of_lt (number : x.isNaN = false) (other : y.isNaN = false) (less : x < y) :
    x ≤ y := by
  rw [lt_iff_signedUnits_lt number other] at less
  exact (le_iff_signedUnits_le number other).mpr (Int.le_of_lt less)

theorem beq_iff_le_and_le (x y : Float) : (x == y) = true ↔ y ≤ x ∧ x ≤ y := by
  by_cases missing : x.isNaN = true ∨ y.isNaN = true
  · rw [beq_of_isNaN missing]
    exact iff_of_false Bool.false_ne_true fun both => not_le_of_isNaN missing both.2
  · simp only [not_or, Bool.not_eq_true] at missing
    obtain ⟨number, other⟩ := missing
    rw [beq_iff_signedUnits_eq number other, le_iff_signedUnits_le number other,
      le_iff_signedUnits_le other number]
    omega

theorem beq_comm (x y : Float) : (x == y) = (y == x) := by
  rw [Bool.eq_iff_iff, beq_iff_le_and_le, beq_iff_le_and_le]
  exact and_comm

theorem beq_ofNat {n m : Nat} (bounded : n < 2 ^ 53) (otherBounded : m < 2 ^ 53) :
    (ofNat n == ofNat m) = (n == m) := by
  have values : (ofNat n == ofNat m) = true ↔ value (ofNat n) = value (ofNat m) :=
    beq_iff_value_eq (isNaN_ofRatio n 1) (isNaN_ofRatio m 1)
  rw [Bool.eq_iff_iff, values, value_ofNat bounded, value_ofNat otherBounded, WithBot.coe_inj,
    WithTop.coe_inj, Nat.cast_inj, beq_iff_eq]

end Tabular.Number
