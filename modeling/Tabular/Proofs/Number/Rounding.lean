import Tabular.Number.Decimal
import Tabular.Proofs.Number.Sign

/-! Rounding quotients to numbers.

The nearest number to a quotient depends on the quotient alone, and a quotient that is a number
rounds to itself. The bounds beyond which decimals are settled without arithmetic agree with
rounding, so a decimal reads as the nearest number to what it stands for.
-/

set_option autoImplicit false

namespace Tabular.Number

/-! ## Quotients -/

theorem roundHalfEven_mul_right {scale : Nat} (positive : 0 < scale)
    (numerator denominator : Nat) :
    roundHalfEven (numerator * scale) (denominator * scale) =
      roundHalfEven numerator denominator := by
  have remainder : 2 * (numerator * scale % (denominator * scale)) =
      2 * (numerator % denominator) * scale := by
    rw [Nat.mul_mod_mul_right, Nat.mul_assoc]
  simp only [roundHalfEven, remainder, Nat.mul_div_mul_right _ _ positive,
    Nat.mul_lt_mul_right positive]

theorem roundHalfEven_mul_self {denominator : Nat} (positive : 0 < denominator) (whole : Nat) :
    roundHalfEven (whole * denominator) denominator = whole := by
  simp [roundHalfEven, Nat.mul_div_cancel _ positive, positive]

theorem ofRatio_mul_right {scale : Nat} (positive : 0 < scale) (numerator denominator : Nat) :
    ofRatio (numerator * scale) (denominator * scale) = ofRatio numerator denominator := by
  have scaled : numerator * scale * unitsInOne = numerator * unitsInOne * scale :=
    Nat.mul_right_comm ..
  simp only [ofRatio, scaled, Nat.mul_div_mul_right _ _ positive,
    Nat.mul_right_comm denominator scale, roundHalfEven_mul_right positive]

theorem ofRatio_congr {numerator denominator other divisor : Nat} (positive : 0 < denominator)
    (otherPositive : 0 < divisor) (same : numerator * divisor = other * denominator) :
    ofRatio numerator denominator = ofRatio other divisor := by
  rw [← ofRatio_mul_right otherPositive, same, Nat.mul_comm denominator,
    ofRatio_mul_right positive]

theorem ofRatio_zero {denominator : Nat} (positive : 0 < denominator) :
    ofRatio 0 denominator = ofNat 0 :=
  ofRatio_congr positive Nat.one_pos (by rw [Nat.zero_mul, Nat.zero_mul])

/-! ## The number of given bits -/

theorem ofBits_ofNat_eq {x : Float} {bits : Nat} (same : bits = x.toBits.toNat) :
    Float.ofBits (UInt64.ofNat bits) = x := by
  rw [same, UInt64.ofNat_toNat, Float.ofBits_toBits]

theorem packed_bits {exponent fraction : Nat} (normal : exponent ≠ 0) (bounded : exponent < 2047)
    (fits : fraction < 2 ^ 52) :
    min ((exponent - 1) * Nat.pow 2 52 + (2 ^ 52 + fraction)) 0x7FF0000000000000 =
      exponent * 2 ^ 52 + fraction := by
  have size : Nat.pow 2 52 = 4503599627370496 := rfl
  rw [size]
  norm_num at fits ⊢
  omega

theorem log2_scaled {mantissa : Nat} (low : 2 ^ 52 ≤ mantissa) (high : mantissa < 2 ^ 53)
    (exponent : Nat) : (mantissa * 2 ^ exponent).log2 = 52 + exponent := by
  have positive : mantissa * 2 ^ exponent ≠ 0 := by positivity
  rw [Nat.log2_eq_iff positive]
  constructor
  · calc 2 ^ (52 + exponent)
      _ = 2 ^ 52 * 2 ^ exponent := Nat.pow_add ..
      _ ≤ mantissa * 2 ^ exponent := Nat.mul_le_mul_right _ low
  · calc mantissa * 2 ^ exponent
      _ < 2 ^ 53 * 2 ^ exponent := Nat.mul_lt_mul_of_pos_right high (Nat.two_pow_pos _)
      _ = 2 ^ (52 + exponent + 1) := by rw [← Nat.pow_add]; congr 1; omega

theorem ofRatio_eq_of_units {x : Float} (finite : IsFinite x) (positive : isNegative x = false)
    {numerator denominator : Nat} (divisor : 0 < denominator)
    (exact : numerator * unitsInOne = units x * denominator) :
    ofRatio numerator denominator = x := by
  have bits := toNat_toBits x
  simp only [positive, Bool.false_eq_true, if_false, Nat.zero_add] at bits
  have exponentBound := isFinite_iff.mp finite
  have fractionBound := (fractionBits x).isLt
  unfold ofRatio
  simp only [exact, Nat.mul_div_cancel _ divisor]
  apply ofBits_ofNat_eq
  -- The shift is the exponent less one, and nothing is rounded away. A small number has no
  -- leading bit to carry into the exponent.
  by_cases small : (exponentBits x).toNat = 0
  · have counted := units_subnormal small
    have shift : (units x).log2 - 52 = 0 := by
      by_cases none : units x = 0
      · rw [none]; rfl
      · have := (Nat.log2_lt none).mpr (by omega : units x < 2 ^ 52)
        omega
    have mantissa :
        roundHalfEven (units x * denominator) (denominator * Nat.pow 2 0) = units x := by
      rw [show Nat.pow 2 0 = 1 from rfl, Nat.mul_one, roundHalfEven_mul_self divisor]
    rw [shift, mantissa, bits, small, counted]
    norm_num
    omega
  · have counted := units_normal small
    have shift : (units x).log2 - 52 = (exponentBits x).toNat - 1 := by
      rw [counted, log2_scaled (by omega) (by omega)]
      omega
    have mantissa : roundHalfEven (units x * denominator)
        (denominator * Nat.pow 2 ((exponentBits x).toNat - 1)) =
        2 ^ 52 + (fractionBits x).toNat := by
      rw [counted, Nat.mul_assoc, Nat.mul_comm denominator]
      exact roundHalfEven_mul_self (Nat.mul_pos (Nat.two_pow_pos _) divisor) _
    rw [shift, mantissa, bits]
    exact packed_bits small exponentBound fractionBound

/-! ## Quotients beyond the range -/

/-- One is a power of two units. A variable keeps the power from being evaluated. -/
theorem unitsInOne_eq {power : Nat} (counted : power = 1074) : unitsInOne = 2 ^ power := by
  delta unitsInOne
  rw [← counted]
  exact Nat.pow_eq

theorem le_log2_scaled {numerator size : Nat} (large : 2 ^ size ≤ numerator) :
    size + 1074 ≤ (numerator * unitsInOne).log2 := by
  obtain ⟨power, counted⟩ : ∃ power, power = 1074 := ⟨_, rfl⟩
  have positive : numerator * unitsInOne ≠ 0 :=
    Nat.mul_ne_zero (Nat.ne_zero_of_lt (Nat.lt_of_lt_of_le (Nat.two_pow_pos size) large))
      (Nat.ne_zero_of_lt unitsInOne_pos)
  rw [Nat.le_log2 positive, ← counted, Nat.pow_add, unitsInOne_eq counted]
  exact Nat.mul_le_mul_right _ large

theorem ofNat_eq_infinity {numerator size : Nat} (beyond : 1025 ≤ size)
    (large : 2 ^ size ≤ numerator) : ofNat numerator = infinity := by
  have shift := le_log2_scaled large
  have bits (mantissa : Nat) :
      min (((numerator * unitsInOne).log2 - 52) * Nat.pow 2 52 + mantissa) 0x7FF0000000000000 =
        0x7FF0000000000000 := by
    have least : 2047 ≤ (numerator * unitsInOne).log2 - 52 := by omega
    have scaled := Nat.mul_le_mul_right (Nat.pow 2 52) least
    rw [show 2047 * Nat.pow 2 52 = 0x7FF0000000000000 from rfl] at scaled
    exact Nat.min_eq_right (Nat.le_add_right_of_le scaled)
  simp only [ofNat, ofRatio, Nat.div_one, bits]
  rfl

theorem ofRatio_of_lt {numerator denominator : Nat}
    (small : 2 * (numerator * unitsInOne) < denominator) :
    ofRatio numerator denominator = Float.ofBits 0 := by
  have below : numerator * unitsInOne < denominator := by omega
  have rounded : roundHalfEven (numerator * unitsInOne) (denominator * Nat.pow 2 0) = 0 := by
    rw [show Nat.pow 2 0 = 1 from rfl, Nat.mul_one]
    simp only [roundHalfEven, Nat.mod_eq_of_lt below, small, if_true, Nat.div_eq_of_lt below]
  simp only [ofRatio, Nat.div_eq_of_lt below, Nat.log2_zero, Nat.zero_sub, rounded, Nat.zero_mul,
    Nat.add_zero, Nat.zero_min]
  rfl

theorem ofNat_zero : ofNat 0 = Float.ofBits 0 :=
  ofRatio_of_lt (by rw [Nat.zero_mul]; exact Nat.one_pos)

/-! ## Decimals -/

theorem two_pow_le_ten_pow (exponent : Nat) : 2 ^ (3 * exponent) ≤ 10 ^ exponent := by
  rw [Nat.pow_mul]
  exact Nat.pow_le_pow_left (by decide) exponent

/-- A decimal reads as the nearest number to the quotient that it stands for. -/
theorem toFloat_eq_ofRatio (decimal : Decimal) :
    decimal.toFloat =
      ofRatio (decimal.digits * 10 ^ decimal.exponent.toNat) (10 ^ (-decimal.exponent).toNat) := by
  obtain ⟨digits, exponent⟩ := decimal
  simp only [Decimal.toFloat]
  split_ifs with none huge whole tiny
  · rw [none, Nat.zero_mul, ofRatio_zero (by positivity)]
  · have size := two_pow_le_ten_pow exponent.toNat
    have large : 2 ^ (3 * exponent.toNat) ≤ digits * 10 ^ exponent.toNat :=
      Nat.le_mul_of_pos_left _ (Nat.pos_of_ne_zero none) |>.trans' size
    have one : (-exponent).toNat = 0 := by omega
    rw [one, Nat.pow_zero]
    exact (ofNat_eq_infinity (by omega) large).symm
  · have one : (-exponent).toNat = 0 := by omega
    rw [one, Nat.pow_zero]
    rfl
  · have power : exponent.toNat = 0 := by omega
    have small : 2 * (digits * unitsInOne) < 10 ^ (-exponent).toNat := by
      obtain ⟨power, counted⟩ : ∃ power, power = 1074 := ⟨_, rfl⟩
      rw [unitsInOne_eq counted]
      calc 2 * (digits * 2 ^ power)
        _ < 2 * (2 ^ (digits.log2 + 1) * 2 ^ power) :=
          Nat.mul_lt_mul_of_pos_left
            (Nat.mul_lt_mul_of_pos_right Nat.lt_log2_self (Nat.two_pow_pos _)) Nat.two_pos
        _ = 2 ^ (digits.log2 + 1 + power + 1) := by
          rw [← Nat.pow_add, Nat.pow_succ' (n := digits.log2 + 1 + power)]
        _ ≤ 2 ^ (3 * (-exponent).toNat) := Nat.pow_le_pow_right Nat.two_pos (by omega)
        _ ≤ 10 ^ (-exponent).toNat := two_pow_le_ten_pow _
    rw [power, Nat.pow_zero, Nat.mul_one, ofRatio_of_lt small, ofNat_zero]
  · have power : exponent.toNat = 0 := by omega
    rw [power, Nat.pow_zero, Nat.mul_one]
    rfl

theorem toFloat_mul_pow (digits zeros : Nat) (exponent : Int) :
    (Decimal.mk (digits * 10 ^ zeros) exponent).toFloat =
      (Decimal.mk digits (exponent + zeros)).toFloat := by
  rw [toFloat_eq_ofRatio, toFloat_eq_ofRatio]
  refine ofRatio_congr (by positivity) (by positivity) ?_
  have exponents : zeros + exponent.toNat + (-(exponent + zeros)).toNat =
      (exponent + zeros).toNat + (-exponent).toNat := by omega
  calc digits * 10 ^ zeros * 10 ^ exponent.toNat * 10 ^ (-(exponent + zeros)).toNat
    _ = digits * 10 ^ (zeros + exponent.toNat + (-(exponent + zeros)).toNat) := by
      rw [Nat.pow_add, Nat.pow_add]
      ring
    _ = digits * 10 ^ (exponent + zeros).toNat * 10 ^ (-exponent).toNat := by
      rw [exponents, Nat.pow_add, Nat.mul_assoc]

end Tabular.Number
