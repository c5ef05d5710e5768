import Mathlib
import Tabular.Number.Binary64

/-! The order of numbers, read off their bits.

A number that is not NaN stands for an extended rational. The fields of its 64 bits give
its sign and its count of units, and the comparison of two numbers is that of what they
stand for.
-/

set_option autoImplicit false

namespace Tabular.Number

open Float.Model (UnpackedFloat Format)
open Float.Model.UnpackedFloat (Sign unpackSign unpackExponent unpackMantissa)

def signOf (x : Float) : Sign := if isNegative x then .negative else .positive

/-- The signed count of units; the infinities stand one step beyond the finite range. -/
def signedUnits (x : Float) : Int := (signOf x).apply (units x)

/-- The extended rational that a number other than NaN stands for. -/
def value (x : Float) : WithBot (WithTop ℚ) :=
  if x.isInf then if isNegative x then ⊥ else ((⊤ : WithTop ℚ) : WithBot (WithTop ℚ))
  else (((signedUnits x : ℚ) / unitsInOne : ℚ) : WithTop ℚ)

/-! ## The fields of a number -/

def exponentBits (x : Float) : BitVec 11 :=
  @unpackExponent Format.binary64 x.toModel.toBits.toBitVec

def fractionBits (x : Float) : BitVec 52 :=
  @unpackMantissa Format.binary64 x.toModel.toBits.toBitVec

theorem toNat_unpackExponent (bits : BitVec 64) :
    (@unpackExponent Format.binary64 bits).toNat = bits.toNat % Nat.pow 2 63 / Nat.pow 2 52 := by
  simp only [unpackExponent, BitVec.toNat_cast, BitVec.extractLsb_toNat]
  norm_num [Nat.shiftRight_eq_div_pow]
  omega

theorem toNat_unpackMantissa (bits : BitVec 64) :
    (@unpackMantissa Format.binary64 bits).toNat = bits.toNat % Nat.pow 2 63 % Nat.pow 2 52 := by
  simp only [unpackMantissa, BitVec.toNat_cast, BitVec.extractLsb_toNat]
  exact (Nat.mod_mod_of_dvd _ (Nat.pow_dvd_pow 2 (by decide))).symm

theorem toNat_exponentBits (x : Float) :
    (exponentBits x).toNat = x.toBits.toNat % Nat.pow 2 63 / Nat.pow 2 52 :=
  toNat_unpackExponent _

theorem toNat_fractionBits (x : Float) :
    (fractionBits x).toNat = x.toBits.toNat % Nat.pow 2 63 % Nat.pow 2 52 :=
  toNat_unpackMantissa _

theorem ofBitVec_unpackSign (x : Float) :
    Sign.ofBitVec (@unpackSign Format.binary64 x.toModel.toBits.toBitVec) = signOf x := by
  have top : (@unpackSign Format.binary64 x.toModel.toBits.toBitVec).toNat =
      x.toBits.toNat / 2 ^ 63 := by
    have bound := x.toModel.toBits.toNat_lt
    simp only [unpackSign, BitVec.toNat_cast, BitVec.extractLsb_toNat, Float.toBits]
    norm_num [Nat.shiftRight_eq_div_pow]
    omega
  have zero : @unpackSign Format.binary64 x.toModel.toBits.toBitVec = 0#1 ↔
      ¬Nat.pow 2 63 ≤ x.toBits.toNat := by
    rw [← BitVec.toNat_inj, top]
    norm_num
  simp only [Sign.ofBitVec, zero, signOf, isNegative]
  by_cases negative : Nat.pow 2 63 ≤ x.toBits.toNat <;> simp [negative]

theorem units_subnormal {x : Float} (small : (exponentBits x).toNat = 0) :
    units x = (fractionBits x).toNat := by
  rw [toNat_exponentBits] at small
  rw [toNat_fractionBits]
  exact if_pos small

theorem units_normal {x : Float} (normal : (exponentBits x).toNat ≠ 0) :
    units x = (2 ^ 52 + (fractionBits x).toNat) * 2 ^ ((exponentBits x).toNat - 1) := by
  rw [toNat_exponentBits] at normal ⊢
  rw [toNat_fractionBits]
  exact if_neg normal

/-- An unpacked number with a sign and a count of units. The exponent of an infinity is
above those of the finite numbers, and only the least exponent goes with a small mantissa. -/
inductive Shape (sign : Sign) (count : Nat) : UnpackedFloat → Prop where
  | notANumber : Shape sign count .notANumber
  | infinity (exponent : Nat) : count = 2 ^ 52 * 2 ^ exponent → exponent = 2046 →
      Shape sign count (.infinity sign)
  | zero : count = 0 → Shape sign count (.zero sign)
  | finite (mantissa exponent : Nat) (place : Int) (positive : 0 < mantissa) :
      count = mantissa * 2 ^ exponent → place = exponent - 1074 → mantissa < 2 ^ 53 →
      2 ^ 52 ≤ mantissa ∨ exponent = 0 → exponent < 2046 →
      Shape sign count (.finite sign mantissa place positive)

theorem shape (x : Float) : Shape (signOf x) (units x) x.toModel.unpack := by
  have exponentBound := (exponentBits x).isLt
  have fractionBound := (fractionBits x).isLt
  have bias : ((Format.binary64.exponentBias : Int) + (52 : Nat)) = 1075 := rfl
  have top : exponentBits x = -1#11 ↔ (exponentBits x).toNat = 2047 := by
    rw [← BitVec.toNat_inj]; rfl
  have bottom : exponentBits x = 0#11 ↔ (exponentBits x).toNat = 0 := by
    rw [← BitVec.toNat_inj]; rfl
  have empty : fractionBits x = 0#52 ↔ (fractionBits x).toNat = 0 := by
    rw [← BitVec.toNat_inj]; rfl
  unfold Float.Model.unpack UnpackedFloat.unpack
  dsimp only
  rw [ofBitVec_unpackSign x, bias]
  -- The goal in the two fields: the mantissa of a finite number depends on the case it is in.
  change Shape _ _ (if exponentBits x = -1#11 then if fractionBits x = 0#52 then _ else _ else
    if exponentBits x = 0#11 then if h : fractionBits x = 0#52 then _ else
      .finite _ (fractionBits x).toNat ((exponentBits x).toNat - 1075 + 1) _
      else .finite _ (1#1 ++ fractionBits x).toNat ((exponentBits x).toNat - 1075) _)
  split_ifs with full whole small zero
  · have counted := units_normal (x := x) (by rw [top.mp full]; decide)
    rw [empty.mp whole] at counted
    exact .infinity _ counted (by rw [top.mp full])
  · exact .notANumber
  · exact .zero ((units_subnormal (bottom.mp small)).trans (empty.mp zero))
  · have counted := units_subnormal (bottom.mp small)
    have least := bottom.mp small
    exact .finite _ 0 _ _ (by rw [counted, Nat.pow_zero, Nat.mul_one]) (by omega) (by omega)
      (.inr rfl) (by decide)
  · have normal : (exponentBits x).toNat ≠ 0 := fun least => small (bottom.mpr least)
    have finite : (exponentBits x).toNat ≠ 2047 := fun most => full (top.mpr most)
    have mantissa : (1#1 ++ fractionBits x).toNat = 2 ^ 52 + (fractionBits x).toNat := by
      rw [BitVec.toNat_append, ← Nat.shiftLeft_add_eq_or_of_lt fractionBound]
      rfl
    have counted := units_normal normal
    rw [← mantissa] at counted
    exact .finite _ _ _ _ counted (by omega) (by omega) (.inl (by omega)) (by omega)

/-! ## Comparing counts of units -/

/-- A greater exponent outweighs any mantissa, when the mantissa it comes with is full. -/
theorem scaled_lt_scaled {mantissa other exponent larger : Nat} (bounded : mantissa < 2 ^ 53)
    (full : 2 ^ 52 ≤ other) (less : exponent < larger) :
    mantissa * 2 ^ exponent < other * 2 ^ larger :=
  calc mantissa * 2 ^ exponent
    _ < 2 ^ 53 * 2 ^ exponent := Nat.mul_lt_mul_of_pos_right bounded (Nat.two_pow_pos _)
    _ = 2 ^ 52 * 2 ^ (exponent + 1) := by
      rw [Nat.pow_succ 2 exponent, Nat.pow_succ 2 52, Nat.mul_assoc, Nat.mul_comm 2]
    _ ≤ other * 2 ^ larger := Nat.mul_le_mul full (Nat.pow_le_pow_right (by decide) less)

theorem compare_scaled {mantissa other exponent larger : Nat} {place otherPlace : Int}
    (bounded : mantissa < 2 ^ 53) (canonical : 2 ^ 52 ≤ mantissa ∨ exponent = 0)
    (placed : place = exponent - 1074)
    (otherBounded : other < 2 ^ 53) (otherCanonical : 2 ^ 52 ≤ other ∨ larger = 0)
    (otherPlaced : otherPlace = larger - 1074) :
    (compare place otherPlace).then (compare mantissa other) =
      compare (mantissa * 2 ^ exponent) (other * 2 ^ larger) := by
  subst placed otherPlaced
  -- Exponents that differ decide alone, for the mantissa of the greater one is full.
  rcases Nat.lt_trichotomy exponent larger with less | same | greater
  · have scaled := scaled_lt_scaled bounded (otherCanonical.resolve_right (by omega)) less
    rw [compare_lt_iff_lt.mpr scaled, compare_lt_iff_lt.mpr (by omega)]
    rfl
  · subst same
    rw [compare_eq_iff_eq.mpr rfl]
    rcases Nat.lt_trichotomy mantissa other with less | same | greater
    · rw [compare_lt_iff_lt.mpr less,
        compare_lt_iff_lt.mpr (Nat.mul_lt_mul_of_pos_right less (Nat.two_pow_pos _))]
      rfl
    · rw [same, compare_eq_iff_eq.mpr rfl, compare_eq_iff_eq.mpr rfl]
      rfl
    · rw [compare_gt_iff_gt.mpr greater,
        compare_gt_iff_gt.mpr (Nat.mul_lt_mul_of_pos_right greater (Nat.two_pow_pos _))]
      rfl
  · have scaled := scaled_lt_scaled otherBounded (canonical.resolve_right (by omega)) greater
    rw [compare_gt_iff_gt.mpr scaled, compare_gt_iff_gt.mpr (by omega)]
    rfl

def Compared (first second : Int) : Ordering → Prop
  | .lt => first < second
  | .eq => first = second
  | .gt => second < first

namespace Compared

theorem compare_eq {first second : Int} {outcome : Ordering}
    (compared : Compared first second outcome) : compare first second = outcome := by
  cases outcome with
  | lt => exact compare_lt_iff_lt.mpr compared
  | eq => exact compare_eq_iff_eq.mpr compared
  | gt => exact compare_gt_iff_gt.mpr compared

theorem natCast (count total : Nat) : Compared count total (compare count total) := by
  rcases Nat.lt_trichotomy count total with less | same | greater
  · rw [compare_lt_iff_lt.mpr less]
    exact Int.ofNat_lt.mpr less
  · rw [compare_eq_iff_eq.mpr same]
    exact congrArg Int.ofNat same
  · rw [compare_gt_iff_gt.mpr greater]
    exact Int.ofNat_lt.mpr greater

theorem neg {first second : Int} {outcome : Ordering} (compared : Compared first second outcome) :
    Compared (-first) (-second) outcome.swap := by
  cases outcome with
  | lt => exact Int.neg_lt_neg compared
  | eq => exact congrArg Neg.neg compared
  | gt => exact Int.neg_lt_neg compared

theorem of_greater {count total : Nat} (greater : total < count) (sign other : Sign) :
    Compared (sign.apply count) (other.apply total)
      (match sign with | .positive => .gt | .negative => .lt) := by
  cases sign <;> cases other <;> simp only [Compared, Sign.apply] <;> omega

theorem of_less {count total : Nat} (less : count < total) (sign other : Sign) :
    Compared (sign.apply count) (other.apply total)
      (match other with | .positive => .lt | .negative => .gt) := by
  cases sign <;> cases other <;> simp only [Compared, Sign.apply] <;> omega

end Compared

/-- Unpacked numbers compare as their signed counts. Only two finite numbers of one sign
take more than their signs and kinds to compare. -/
theorem Shape.compare_eq {sign other : Sign} {count total : Nat} {first second : UnpackedFloat}
    (left : Shape sign count first) (right : Shape other total second)
    (leftNumber : first ≠ .notANumber) (rightNumber : second ≠ .notANumber) :
    ∃ outcome, first.compare second = some outcome ∧
      Compared (sign.apply count) (other.apply total) outcome := by
  cases left with
  | notANumber => contradiction
  | infinity exponent counted top =>
    have above : 0 < count := by rw [counted]; positivity
    cases right with
    | notANumber => contradiction
    | infinity larger totalled otherTop =>
      have same : count = total := by rw [counted, totalled, top, otherTop]
      cases sign <;> cases other <;> refine ⟨_, rfl, ?_⟩ <;>
        simp only [Compared, Sign.apply, compare] <;> omega
    | zero totalled =>
      have greater : total < count := by omega
      exact ⟨_, by cases sign <;> rfl, .of_greater greater sign other⟩
    | finite _ larger _ _ totalled placed bounded canonical below =>
      have greater : total < count := by
        rw [counted, totalled]
        exact scaled_lt_scaled bounded (Nat.le_refl _) (top ▸ below)
      exact ⟨_, by cases sign <;> rfl, .of_greater greater sign other⟩
  | zero counted =>
    cases right with
    | notANumber => contradiction
    | infinity larger totalled otherTop =>
      have less : count < total := by
        rw [counted, totalled]
        positivity
      exact ⟨_, by cases other <;> rfl, .of_less less sign other⟩
    | zero totalled =>
      cases sign <;> cases other <;> refine ⟨_, rfl, ?_⟩ <;>
        simp only [Compared, Sign.apply] <;> omega
    | finite _ _ _ positive totalled =>
      have less : count < total := by
        rw [counted, totalled]
        positivity
      exact ⟨_, by cases other <;> rfl, .of_less less sign other⟩
  | finite _ exponent _ positive counted placed bounded canonical below =>
    have above : 0 < count := by rw [counted]; positivity
    cases right with
    | notANumber => contradiction
    | infinity larger totalled otherTop =>
      have less : count < total := by
        rw [counted, totalled]
        exact scaled_lt_scaled bounded (Nat.le_refl _) (otherTop ▸ below)
      exact ⟨_, by cases other <;> rfl, .of_less less sign other⟩
    | zero totalled =>
      have greater : total < count := by omega
      exact ⟨_, by cases sign <;> rfl, .of_greater greater sign other⟩
    | finite _ larger _ otherPositive totalled otherPlaced otherBounded otherCanonical =>
      have totalAbove : 0 < total := by rw [totalled]; positivity
      have scaled :=
        compare_scaled bounded canonical placed otherBounded otherCanonical otherPlaced
      rw [← counted, ← totalled] at scaled
      have compared := Compared.natCast count total
      -- Between numbers of one sign the counts decide, the other way round below zero.
      cases sign <;> cases other
      · exact ⟨_, by rw [UnpackedFloat.compare, scaled], compared.neg⟩
      · exact ⟨_, rfl, by simp only [Compared, Sign.apply]; omega⟩
      · exact ⟨_, rfl, by simp only [Compared, Sign.apply]; omega⟩
      · exact ⟨_, by rw [UnpackedFloat.compare, scaled], compared⟩

/-! ## Comparing numbers -/

theorem isNaN_iff (x : Float) : x.isNaN = true ↔ x.toModel.unpack = .notANumber := by
  change x.toModel.unpack.isNaN = true ↔ _
  cases x.toModel.unpack <;> simp [UnpackedFloat.isNaN]

theorem compare_unpack {x y : Float} (number : x.isNaN = false) (other : y.isNaN = false) :
    x.toModel.unpack.compare y.toModel.unpack =
      some (compare (signedUnits x) (signedUnits y)) := by
  obtain ⟨outcome, compared, meaning⟩ := (shape x).compare_eq (shape y)
    (fun missing => Bool.eq_false_iff.mp number ((isNaN_iff x).mpr missing))
    (fun missing => Bool.eq_false_iff.mp other ((isNaN_iff y).mpr missing))
  rw [compared]
  exact congrArg some meaning.compare_eq.symm

theorem lt_iff_compare_unpack (x y : Float) :
    x < y ↔ x.toModel.unpack.compare y.toModel.unpack = some .lt := by
  change decide ((x.toModel.unpack.compare y.toModel.unpack == some .lt) = true) = true ↔ _
  rw [decide_eq_true_iff, beq_iff_eq]

theorem lt_iff_signedUnits_lt {x y : Float} (number : x.isNaN = false)
    (other : y.isNaN = false) : x < y ↔ signedUnits x < signedUnits y := by
  rw [lt_iff_compare_unpack, compare_unpack number other, Option.some.injEq, compare_lt_iff_lt]

theorem isNaN_eq_false_of_lt {x y : Float} (less : x < y) : x.isNaN = false ∧ y.isNaN = false := by
  rw [lt_iff_compare_unpack] at less
  change x.toModel.unpack.isNaN = false ∧ y.toModel.unpack.isNaN = false
  cases first : x.toModel.unpack <;> cases second : y.toModel.unpack <;>
    simp_all [UnpackedFloat.compare, UnpackedFloat.isNaN]

/-! ## What numbers stand for -/

theorem units_of_isInf {x : Float} (infinite : x.isInf = true) :
    ∃ exponent, units x = 2 ^ 52 * 2 ^ exponent ∧ exponent = 2046 := by
  change x.toModel.unpack.isInf = true at infinite
  have form := shape x
  cases unpacked : x.toModel.unpack with
  | infinity sign =>
    rw [unpacked] at form
    cases form with
    | infinity exponent counted top => exact ⟨exponent, counted, top⟩
  | _ =>
    rw [unpacked] at infinite
    cases infinite

theorem units_lt_of_finite {x : Float} (finite : x.isInf = false) (number : x.isNaN = false)
    {exponent : Nat} (top : exponent = 2046) : units x < 2 ^ 52 * 2 ^ exponent := by
  change x.toModel.unpack.isInf = false at finite
  change x.toModel.unpack.isNaN = false at number
  have form := shape x
  cases unpacked : x.toModel.unpack with
  | infinity sign =>
    rw [unpacked] at finite
    cases finite
  | notANumber =>
    rw [unpacked] at number
    cases number
  | zero sign =>
    rw [unpacked] at form
    cases form with
    | zero counted =>
      rw [counted]
      positivity
  | finite sign mantissa place positive =>
    rw [unpacked] at form
    cases form with
    | finite _ lower _ _ counted placed bounded canonical below =>
      rw [counted]
      exact scaled_lt_scaled bounded (Nat.le_refl _) (top ▸ below)

theorem units_lt_units_of_isInf {x y : Float} (number : x.isNaN = false) (finite : x.isInf = false)
    (infinite : y.isInf = true) : units x < units y := by
  obtain ⟨exponent, counted, top⟩ := units_of_isInf infinite
  rw [counted]
  exact units_lt_of_finite finite number top

theorem units_eq_units_of_isInf {x y : Float} (infinite : x.isInf = true)
    (other : y.isInf = true) : units x = units y := by
  obtain ⟨exponent, counted, top⟩ := units_of_isInf infinite
  obtain ⟨larger, totalled, otherTop⟩ := units_of_isInf other
  rw [counted, totalled, top, otherTop]

theorem units_pos_of_isInf {x : Float} (infinite : x.isInf = true) : 0 < units x := by
  obtain ⟨exponent, counted, -⟩ := units_of_isInf infinite
  rw [counted]
  positivity

theorem unitsInOne_pos : 0 < unitsInOne := by decide +kernel

theorem finite_lt_top (q : ℚ) : ((q : WithTop ℚ) : WithBot (WithTop ℚ)) < ⊤ :=
  WithBot.coe_lt_coe.mpr (WithTop.coe_lt_top q)

theorem signedUnits_of_negative {x : Float} (negative : isNegative x = true) :
    signedUnits x = -(units x : Int) := by
  simp [signedUnits, signOf, negative, Sign.apply]

theorem signedUnits_of_positive {x : Float} (positive : isNegative x = false) :
    signedUnits x = units x := by
  simp [signedUnits, signOf, positive, Sign.apply]

theorem natAbs_signedUnits (x : Float) : (signedUnits x).natAbs = units x := by
  cases sign : isNegative x with
  | false => rw [signedUnits_of_positive sign, Int.natAbs_natCast]
  | true => rw [signedUnits_of_negative sign, Int.natAbs_neg, Int.natAbs_natCast]

theorem value_of_finite {x : Float} (finite : x.isInf = false) :
    value x = (((signedUnits x : ℚ) / unitsInOne : ℚ) : WithTop ℚ) := by
  simp only [value, finite, Bool.false_eq_true, if_false]

theorem value_of_top {x : Float} (infinite : x.isInf = true) (positive : isNegative x = false) :
    value x = ⊤ := by
  simp only [value, infinite, positive, Bool.false_eq_true, if_true, if_false]
  rfl

theorem value_of_bottom {x : Float} (infinite : x.isInf = true) (negative : isNegative x = true) :
    value x = ⊥ := by
  simp [value, infinite, negative]

theorem value_lt_value {x y : Float} (number : x.isNaN = false) (other : y.isNaN = false) :
    value x < value y ↔ signedUnits x < signedUnits y := by
  have scale : (0 : ℚ) < unitsInOne := Nat.cast_pos.mpr unitsInOne_pos
  have size := natAbs_signedUnits x
  have otherSize := natAbs_signedUnits y
  cases infX : x.isInf <;> cases infY : y.isInf
  · rw [value_of_finite infX, value_of_finite infY, WithBot.coe_lt_coe, WithTop.coe_lt_coe,
      div_lt_div_iff_of_pos_right scale, Int.cast_lt]
  · -- The infinity counts more units, so its sign decides.
    have less := units_lt_units_of_isInf number infX infY
    cases negY : isNegative y with
    | false =>
      rw [value_of_finite infX, value_of_top infY negY, signedUnits_of_positive negY]
      exact iff_of_true (finite_lt_top _) (by omega)
    | true =>
      rw [value_of_bottom infY negY, signedUnits_of_negative negY]
      exact iff_of_false not_lt_bot (by omega)
  · have less := units_lt_units_of_isInf other infY infX
    cases negX : isNegative x with
    | false =>
      rw [value_of_top infX negX, signedUnits_of_positive negX]
      exact iff_of_false not_top_lt (by omega)
    | true =>
      rw [value_of_finite infY, value_of_bottom infX negX, signedUnits_of_negative negX]
      exact iff_of_true (WithBot.bot_lt_coe _) (by omega)
  · have same := units_eq_units_of_isInf infX infY
    have above := units_pos_of_isInf infX
    cases negX : isNegative x with
    | false =>
      rw [value_of_top infX negX, signedUnits_of_positive negX]
      exact iff_of_false not_top_lt (by omega)
    | true =>
      cases negY : isNegative y with
      | false =>
        rw [value_of_bottom infX negX, value_of_top infY negY, signedUnits_of_negative negX,
          signedUnits_of_positive negY]
        exact iff_of_true (finite_lt_top 0).bot_lt (by omega)
      | true =>
        rw [value_of_bottom infY negY, signedUnits_of_negative negX, signedUnits_of_negative negY]
        exact iff_of_false not_lt_bot (by omega)

theorem value_eq_value {x y : Float} (number : x.isNaN = false) (other : y.isNaN = false) :
    value x = value y ↔ signedUnits x = signedUnits y := by
  constructor
  · intro same
    have notLess := (value_lt_value number other).not.mp same.not_lt
    have notGreater := (value_lt_value other number).not.mp same.not_gt
    omega
  · intro same
    have notLess := (value_lt_value number other).not.mpr (Int.not_lt.mpr same.ge)
    have notGreater := (value_lt_value other number).not.mpr (Int.not_lt.mpr same.le)
    exact le_antisymm (not_lt.mp notGreater) (not_lt.mp notLess)

end Tabular.Number
