import Tabular.Number.Word64
import Tabular.Proofs.Number.Shortest

/-! What rounding gives: always a number, and every whole number of up to 53 bits as it is. -/

set_option autoImplicit false

namespace Tabular.Number

open Float.Model (UnpackedFloat Format)
open Float.Model.UnpackedFloat (unpackExponent unpackMantissa isNaNBits)

/-! ## Numbers of given bits -/

/-- The bits of NaN stand behind those of infinity, so none before them are changed. -/
theorem toNat_toBits_ofBits {bits : Nat} (bounded : bits ≤ 0x7FF0000000000000) :
    (Float.ofBits (UInt64.ofNat bits)).toBits.toNat = bits := by
  have size : (UInt64.ofNat bits).toBitVec.toNat = bits :=
    UInt64.toNat_ofNat_of_lt' (Nat.lt_of_le_of_lt bounded (by decide))
  have number : @isNaNBits Format.binary64 (UInt64.ofNat bits).toBitVec = false := by
    rw [isNaNBits, decide_eq_false_iff_not]
    rintro ⟨top, unempty⟩
    have exponent := congrArg BitVec.toNat top
    rw [toNat_unpackExponent, size] at exponent
    refine unempty (BitVec.eq_of_toNat_eq ?_)
    rw [toNat_unpackMantissa, size]
    norm_num at exponent ⊢
    omega
  have packed := @UnpackedFloat.pack_unpack Format.binary64 (UInt64.ofNat bits).toBitVec (by decide)
  rw [number] at packed
  change (UnpackedFloat.pack Format.binary64 _).toNat = bits
  rw [packed]
  exact size

theorem ofBits_shifted {shift mantissa : Nat} (low : 2 ^ 52 ≤ mantissa) (high : mantissa < 2 ^ 53)
    (bounded : shift < 2046) :
    let x := Float.ofBits (UInt64.ofNat (min (shift * Nat.pow 2 52 + mantissa) 0x7FF0000000000000))
    units x = mantissa * 2 ^ shift ∧ isNegative x = false ∧ IsFinite x := by
  intro x
  have bits : x.toBits.toNat = shift * 2 ^ 52 + mantissa := by
    rw [toNat_toBits_ofBits (Nat.min_le_right _ _)]
    norm_num at low high ⊢
    omega
  have exponent : (exponentBits x).toNat = shift + 1 := by
    rw [toNat_exponentBits, bits]
    norm_num at low high ⊢
    omega
  have fraction : (fractionBits x).toNat = mantissa - 2 ^ 52 := by
    rw [toNat_fractionBits, bits]
    norm_num at low high ⊢
    omega
  refine ⟨?_, ?_, ?_⟩
  · rw [units_normal (by omega), exponent, fraction, Nat.add_sub_cancel' low, Nat.add_sub_cancel]
  · rw [isNegative, bits, decide_eq_false_iff_not]
    norm_num at low high ⊢
    omega
  · rw [isFinite_iff, exponent]
    omega

/-! ## Numbers that are not NaN -/

variable {x : Float}

theorem isNaN_of_toBits_le (bounded : x.toBits.toNat ≤ 0x7FF0000000000000) : x.isNaN = false := by
  rw [Float.isNaN_eq_decide_eq_nan, decide_eq_false_iff_not]
  rintro rfl
  revert bounded
  decide

theorem isNaN_iff_fields (x : Float) :
    x.isNaN = true ↔ exponentBits x = -1#11 ∧ fractionBits x ≠ 0#52 := by
  change (UnpackedFloat.unpack Format.binary64 x.toModel.toBits.toBitVec).isNaN = true ↔
    @unpackExponent Format.binary64 x.toModel.toBits.toBitVec = -1#11 ∧
      ¬@unpackMantissa Format.binary64 x.toModel.toBits.toBitVec = 0#52
  unfold UnpackedFloat.unpack
  simp only []
  split_ifs <;> simp_all [UnpackedFloat.isNaN]

theorem isNaN_neg (number : x.isNaN = false) : (-x).isNaN = false := by
  obtain ⟨-, exponent, fraction⟩ := neg_fields number
  rw [Bool.eq_false_iff, ne_eq, isNaN_iff_fields, exponent, fraction, ← isNaN_iff_fields]
  exact Bool.eq_false_iff.mp number

theorem isNaN_withSign (negative : Bool) (number : x.isNaN = false) :
    (withSign negative x).isNaN = false := by
  cases negative with
  | false => exact number
  | true => exact isNaN_neg number

theorem isNaN_ofRatio (numerator denominator : Nat) :
    (ofRatio numerator denominator).isNaN = false := by
  refine isNaN_of_toBits_le ?_
  rw [ofRatio, toNat_toBits_ofBits (Nat.min_le_right _ _)]
  exact Nat.min_le_right _ _

theorem isNaN_toFloat (decimal : Decimal) : decimal.toFloat.isNaN = false := by
  rw [toFloat_eq_ofRatio]
  exact isNaN_ofRatio _ _

theorem beq_self (number : x.isNaN = false) : (x == x) = true := by
  rw [Float.isNaN_eq_decide_eq_nan, decide_eq_false_iff_not] at number
  exact Float.beq_self_iff.mpr number

theorem beq_notANumber (x : Float) : (x == notANumber) = false := by
  have same : notANumber = Float.nan := by decide
  rw [same, Float.beq_nan_eq_false]

/-! ## Whole numbers -/

theorem shifted_mantissa {n : Nat} (positive : n ≠ 0) (bounded : n.log2 < 53) :
    2 ^ 52 ≤ n * 2 ^ (52 - n.log2) ∧ n * 2 ^ (52 - n.log2) < 2 ^ 53 := by
  obtain ⟨low, high⟩ := (Nat.log2_eq_iff positive).mp rfl
  constructor
  · calc 2 ^ 52
      _ = 2 ^ n.log2 * 2 ^ (52 - n.log2) := by rw [← Nat.pow_add]; congr 1; omega
      _ ≤ n * 2 ^ (52 - n.log2) := Nat.mul_le_mul_right _ low
  · calc n * 2 ^ (52 - n.log2)
      _ < 2 ^ (n.log2 + 1) * 2 ^ (52 - n.log2) :=
        Nat.mul_lt_mul_of_pos_right high (Nat.two_pow_pos _)
      _ = 2 ^ 53 := by rw [← Nat.pow_add]; congr 1; omega

theorem ofNat_exact {n : Nat} (bounded : n < 2 ^ 53) :
    units (ofNat n) = n * unitsInOne ∧ isNegative (ofNat n) = false ∧ IsFinite (ofNat n) := by
  by_cases none : n = 0
  · rw [none, ofNat_zero_eq, Nat.zero_mul]
    exact ⟨units_zero, by decide, isFinite_zero⟩
  · obtain ⟨power, counted⟩ : ∃ power, power = 1074 := ⟨_, rfl⟩
    have size : n.log2 < 53 := (Nat.log2_lt none).mpr bounded
    obtain ⟨low, high⟩ := shifted_mantissa none size
    have scaled : n * unitsInOne = n * 2 ^ (52 - n.log2) * 2 ^ (n.log2 + 1022) := by
      have exponents : 52 - n.log2 + (n.log2 + 1022) = power := by omega
      rw [unitsInOne_eq counted, Nat.mul_assoc, ← Nat.pow_add, exponents]
    have shift : (n * unitsInOne).log2 - 52 = n.log2 + 1022 := by
      rw [scaled, log2_scaled low high]
      omega
    have mantissa : roundHalfEven (n * unitsInOne) (1 * Nat.pow 2 (n.log2 + 1022)) =
        n * 2 ^ (52 - n.log2) := by
      rw [Nat.one_mul, scaled]
      exact roundHalfEven_mul_self (Nat.two_pow_pos _) _
    simp only [ofNat, ofRatio, Nat.div_one, shift, mantissa]
    rw [scaled]
    exact ofBits_shifted low high (by omega)

theorem value_ofNat {n : Nat} (bounded : n < 2 ^ 53) :
    value (ofNat n) = ((n : ℚ) : WithTop ℚ) := by
  obtain ⟨counted, positive, finite⟩ := ofNat_exact bounded
  have scale : (unitsInOne : ℚ) ≠ 0 := Nat.cast_ne_zero.mpr (Nat.ne_zero_of_lt unitsInOne_pos)
  have quotient : ((signedUnits (ofNat n) : ℚ) / unitsInOne : ℚ) = n := by
    rw [signedUnits_of_positive positive, counted, Int.cast_natCast, Nat.cast_mul,
      mul_div_cancel_right₀ _ scale]
  rw [value_of_finite finite.isInf, quotient]

/-! ## Rounding within the range -/

theorem roundHalfEven_le (numerator denominator : Nat) :
    roundHalfEven numerator denominator ≤ numerator / denominator + 1 := by
  simp only [roundHalfEven]
  split_ifs <;> omega

theorem roundHalfEven_leading (scaled : Nat) :
    roundHalfEven scaled (2 ^ (scaled.log2 - 52)) ≤ 2 ^ 53 := by
  have quotient : scaled / 2 ^ (scaled.log2 - 52) < 2 ^ 53 := by
    rw [Nat.div_lt_iff_lt_mul (Nat.two_pow_pos _), ← Nat.pow_add]
    exact Nat.lt_of_lt_of_le Nat.lt_log2_self (Nat.pow_le_pow_right (by decide) (by omega))
  have rounded := roundHalfEven_le scaled (2 ^ (scaled.log2 - 52))
  omega

theorem isFinite_ofNat {n : Nat} (bounded : n < 2 ^ 64) : IsFinite (ofNat n) := by
  obtain ⟨power, counted⟩ : ∃ power, power = 1074 := ⟨_, rfl⟩
  have place : (n * unitsInOne).log2 < 64 + power := by
    by_cases none : n = 0
    · rw [none, Nat.zero_mul, Nat.log2_zero]
      omega
    · rw [Nat.log2_lt (Nat.mul_ne_zero none (Nat.ne_zero_of_lt unitsInOne_pos)), Nat.pow_add,
        unitsInOne_eq counted]
      exact Nat.mul_lt_mul_of_pos_right bounded (Nat.two_pow_pos _)
  have mantissa := roundHalfEven_leading (n * unitsInOne)
  simp only [ofNat, ofRatio, Nat.div_one, Nat.one_mul, Nat.pow_eq]
  generalize n * unitsInOne = scaled at place mantissa ⊢
  generalize roundHalfEven scaled (2 ^ (scaled.log2 - 52)) = rounded at mantissa ⊢
  rw [isFinite_iff, toNat_exponentBits, toNat_toBits_ofBits (Nat.min_le_right _ _)]
  norm_num at mantissa ⊢
  omega

theorem isFinite_ofInt {n : Int} (low : -(signedLimit : Int) ≤ n) (high : n < wordLimit) :
    IsFinite (ofInt n) := by
  have size : n.natAbs < 2 ^ 64 := by
    have limits : signedLimit < 2 ^ 64 ∧ wordLimit = 2 ^ 64 := by decide
    omega
  have finite := isFinite_ofNat size
  unfold ofInt withSign
  split
  · exact finite.neg
  · exact finite

theorem value_inj {x : Float} {p q : ℚ} (stands : value x = (q : WithTop ℚ))
    (again : value x = (p : WithTop ℚ)) : p = q :=
  WithTop.coe_inj.mp (WithBot.coe_inj.mp (again.symm.trans stands))

/-- The number that a finite float stands for. It is negative where the sign is and something is
there, so minus zero is not. -/
theorem exists_value {x : Float} (finite : IsFinite x) :
    ∃ q : ℚ, value x = (q : WithTop ℚ) ∧ (0 ≤ q ↔ isNegative x = false ∨ units x = 0) ∧
      (0 ≤ q → ⌊q⌋₊ = wholePart x) := by
  have scale : (0 : ℚ) < unitsInOne := Nat.cast_pos.mpr unitsInOne_pos
  refine ⟨_, value_of_finite finite.isInf, ?_⟩
  cases sign : isNegative x with
  | false =>
    rw [signedUnits_of_positive sign, Int.cast_natCast]
    exact ⟨iff_of_true (div_nonneg (Nat.cast_nonneg _) scale.le) (.inl rfl),
      fun _ => Nat.floor_div_eq_div _ _⟩
  | true =>
    have negative : 0 ≤ ((-(units x : Int) : Int) : ℚ) / unitsInOne ↔ units x = 0 := by
      rw [le_div_iff₀ scale, zero_mul, Int.cast_nonneg_iff]
      omega
    rw [signedUnits_of_negative sign]
    refine ⟨negative.trans (by simp), fun nonnegative => ?_⟩
    rw [wholePart, negative.mp nonnegative, Nat.cast_zero, neg_zero, Int.cast_zero, zero_div,
      Nat.floor_zero, Nat.zero_div]

end Tabular.Number
