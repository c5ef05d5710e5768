import Tabular.Proofs.Number.Rounding

/-! What is written for a number reads back as the number: its shortest decimal and, for a whole
number, the integer that it equals.
-/

set_option autoImplicit false

namespace Tabular.Number

variable {x : Float}

/-! ## Zeros -/

theorem ofNat_zero_eq : ofNat 0 = 0 := by
  rw [ofNat_zero]
  decide +kernel

theorem units_zero : units 0 = 0 := by decide +kernel

theorem isFinite_zero : IsFinite 0 :=
  isFinite_iff.mpr (by decide +kernel)

theorem units_minus_zero : units (-0) = 0 := by decide +kernel

theorem eq_of_beq_of_units {y : Float} (nonzero : units x ≠ 0) (equal : (y == x) = true) :
    y = x := by
  obtain ⟨-, -, same | ⟨-, zero⟩ | ⟨-, zero⟩⟩ := Float.beq_iff_ne_nan_and_eq.mp equal
  · exact same
  · exact absurd (zero ▸ units_minus_zero) nonzero
  · exact absurd (zero ▸ units_zero) nonzero

theorem ofNat_of_units {whole : Nat} (finite : IsFinite x) (positive : isNegative x = false)
    (exact : units x = whole * unitsInOne) : ofNat whole = x :=
  ofRatio_eq_of_units finite positive Nat.one_pos (by rw [exact, Nat.mul_one])

theorem eq_zero_of_units (finite : IsFinite x) (none : units x = 0) : x = 0 ∨ x = -0 := by
  cases sign : isNegative x with
  | false =>
    have read : ofNat 0 = x := ofNat_of_units finite sign (by rw [none, Nat.zero_mul])
    exact .inl (read.symm.trans ofNat_zero_eq)
  | true =>
    have read : ofNat 0 = -x :=
      ofNat_of_units finite.neg (by rw [finite.isNegative_neg, sign, Bool.not_true])
        (by rw [finite.units_neg, none, Nat.zero_mul])
    rw [ofNat_zero_eq] at read
    exact .inr (by rw [read, finite.neg_neg])

/-! ## The shortest decimal -/

theorem toFloat_of_neighbour? {tie : Tie} {exponent : Int} {decimal : Decimal}
    (found : neighbour? tie x exponent = some decimal) : (decimal.toFloat == x) = true := by
  unfold neighbour? at found
  extract_lets numerator denominator below doubled lower upper preferUpper at found
  split at found
  next lowerReads upperReads =>
    rw [Option.some.injEq] at found
    rw [← found]
    cases preferUpper
    · exact lowerReads
    · exact upperReads
  next lowerReads _ => exact Option.some.inj found ▸ lowerReads
  next _ upperReads => exact Option.some.inj found ▸ upperReads
  next => cases found

theorem toFloat_exact (finite : IsFinite x) (positive : isNegative x = false) {power : Nat}
    {exponent : Int} (counted : power = 1074) (placed : exponent = -(power : Int)) :
    (Decimal.mk (units x * Nat.pow 5 power) exponent).toFloat = x := by
  subst placed
  rw [toFloat_eq_ofRatio]
  refine ofRatio_eq_of_units finite positive (by positivity) ?_
  have whole : (-(power : Int)).toNat = 0 := by omega
  have scale : Nat.pow 5 power * unitsInOne = 10 ^ power := by
    rw [unitsInOne_eq counted]
    exact (Nat.mul_pow 5 2 power).symm
  rw [whole, Nat.pow_zero, Nat.mul_one, Nat.mul_assoc, scale, Int.neg_neg, Int.toNat_natCast]

/-- The shortest decimal of a number reads back as it. -/
theorem toFloat_shortest (tie : Tie) (finite : IsFinite x) (positive : isNegative x = false)
    (nonzero : units x ≠ 0) : (shortest tie x).toFloat = x := by
  unfold shortest
  extract_lets point found
  cases searched : found with
  | none =>
    obtain ⟨power, counted⟩ : ∃ power, power = 1074 := ⟨_, rfl⟩
    rw [Option.getD_none, ← counted]
    exact toFloat_exact finite positive counted (by omega)
  | some decimal =>
    obtain ⟨extra, -, reads⟩ := List.exists_of_findSome?_eq_some searched
    exact eq_of_beq_of_units nonzero (toFloat_of_neighbour? reads)

theorem shortest_digits_ne_zero (tie : Tie) (finite : IsFinite x) (positive : isNegative x = false)
    (nonzero : units x ≠ 0) : (shortest tie x).digits ≠ 0 := by
  intro none
  have read := toFloat_shortest tie finite positive nonzero
  rw [Decimal.toFloat, if_pos none] at read
  exact nonzero (by rw [← read, ofNat_zero_eq, units_zero])

/-! ## Whole numbers -/

theorem wholeValue?_of_units (none : units x = 0) : wholeValue? x = some 0 := by
  simp only [wholeValue?, none, Nat.zero_mod, if_true, Int.natCast_zero, Int.zero_ediv,
    Int.neg_zero, ite_self]

theorem ofInt_natCast (whole : Nat) : ofInt whole = ofNat whole := by
  have nonnegative : ¬(whole : Int) < 0 := by omega
  rw [ofInt, decide_eq_false nonnegative, Int.natAbs_natCast]
  rfl

theorem ofInt_neg_natCast {whole : Nat} (nonzero : whole ≠ 0) :
    ofInt (-whole) = -ofNat whole := by
  have negative : -(whole : Int) < 0 := by omega
  rw [ofInt, decide_eq_true negative, Int.natAbs_neg, Int.natAbs_natCast]
  rfl

/-- The integer that a number equals reads back as it, save for the sign of zero. -/
theorem ofInt_of_wholeValue? {whole : Int} (finite : IsFinite x)
    (equals : wholeValue? x = some whole) :
    ofInt whole = if units x = 0 then 0 else x := by
  simp only [wholeValue?] at equals
  split at equals
  next divides =>
    obtain ⟨magnitude, counted⟩ := Nat.dvd_of_mod_eq_zero divides
    rw [Nat.mul_comm] at counted
    have quotient : (units x : Int) / unitsInOne = magnitude := by
      rw [← Int.natCast_ediv, counted, Nat.mul_div_cancel _ unitsInOne_pos]
    rw [quotient, Option.some.injEq] at equals
    rw [← equals]
    by_cases none : magnitude = 0
    · have zero : units x = 0 := by rw [counted, none, Nat.zero_mul]
      rw [if_pos zero, none, Int.natCast_zero, Int.neg_zero, ite_self]
      exact (ofInt_natCast 0).trans ofNat_zero_eq
    · have nonzero : units x ≠ 0 := by
        rw [counted]
        exact Nat.mul_ne_zero none (Nat.ne_zero_of_lt unitsInOne_pos)
      rw [if_neg nonzero]
      cases sign : isNegative x with
      | false =>
        rw [if_neg Bool.false_ne_true, ofInt_natCast]
        exact ofNat_of_units finite sign counted
      | true =>
        have opposite : ofNat magnitude = -x :=
          ofNat_of_units finite.neg (by rw [finite.isNegative_neg, sign, Bool.not_true])
            (by rw [finite.units_neg, counted])
        rw [if_pos rfl, ofInt_neg_natCast none, opposite, finite.neg_neg]
  next => cases equals

end Tabular.Number
