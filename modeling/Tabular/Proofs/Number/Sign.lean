import Tabular.Proofs.Number.Order

/-! Signs of numbers.

Negating a number flips its sign bit and leaves its other fields, so the magnitude of a number
below zero is a number of its own, and the sign in front of it gives the number back.
-/

set_option autoImplicit false

namespace Tabular.Number

open Float.Model (UnpackedFloat Format)
open Float.Model.UnpackedFloat (Sign packComponents unpackExponent)

def IsFinite (x : Float) : Prop := (x.isNaN || x.isInf) = false

variable {x y : Float}

theorem isFinite_iff : IsFinite x ↔ (exponentBits x).toNat < 2047 := by
  have bounded := (exponentBits x).isLt
  have top : exponentBits x = -1#11 ↔ (exponentBits x).toNat = 2047 := by
    rw [← BitVec.toNat_inj]; rfl
  have below : (exponentBits x).toNat < 2047 ↔ ¬exponentBits x = -1#11 := by
    rw [top]
    omega
  rw [below]
  change ((UnpackedFloat.unpack Format.binary64 x.toModel.toBits.toBitVec).isNaN ||
    (UnpackedFloat.unpack Format.binary64 x.toModel.toBits.toBitVec).isInf) = false ↔
      ¬@unpackExponent Format.binary64 x.toModel.toBits.toBitVec = -1#11
  unfold UnpackedFloat.unpack
  simp only []
  split_ifs <;> simp_all [UnpackedFloat.isNaN, UnpackedFloat.isInf]

theorem IsFinite.isNaN (finite : IsFinite x) : x.isNaN = false := by
  simp only [IsFinite, Bool.or_eq_false_iff] at finite
  exact finite.1

theorem IsFinite.isInf (finite : IsFinite x) : x.isInf = false := by
  simp only [IsFinite, Bool.or_eq_false_iff] at finite
  exact finite.2

theorem toNat_toBits (x : Float) :
    x.toBits.toNat =
      (if isNegative x then 2 ^ 63 else 0) + (exponentBits x).toNat * 2 ^ 52 +
        (fractionBits x).toNat := by
  have bound := x.toBits.toNat_lt
  rw [toNat_exponentBits, toNat_fractionBits]
  simp only [isNegative, decide_eq_true_eq]
  norm_num at bound ⊢
  split_ifs <;> omega

theorem eq_of_fields (sign : isNegative x = isNegative y)
    (exponent : exponentBits x = exponentBits y) (fraction : fractionBits x = fractionBits y) :
    x = y := by
  have bits : x.toBits.toNat = y.toBits.toNat := by
    rw [toNat_toBits, toNat_toBits, sign, exponent, fraction]
  exact Float.toBits_inj.mp (UInt64.toNat_inj.mp bits)

/-! ## Negation -/

/-- Negating changes the sign that an unpacked number packs with, and nothing else. -/
theorem exists_packComponents_neg {unpacked : UnpackedFloat} (number : unpacked ≠ .notANumber) :
    ∃ sign exponent mantissa,
      unpacked.pack Format.binary64 = packComponents Format.binary64 sign exponent mantissa ∧
      unpacked.neg.pack Format.binary64 =
        packComponents Format.binary64 (-sign) exponent mantissa := by
  cases unpacked with
  | notANumber => contradiction
  | infinity sign => exact ⟨sign, _, _, rfl, rfl⟩
  | zero sign => exact ⟨sign, _, _, rfl, rfl⟩
  | finite sign mantissa place positive =>
    simp only [UnpackedFloat.neg, UnpackedFloat.pack]
    split_ifs <;> exact ⟨sign, _, _, rfl, rfl⟩

theorem isNegative_eq_not (flipped : signOf y = -signOf x) : isNegative y = !isNegative x := by
  cases before : isNegative x <;> cases after : isNegative y <;>
    simp [signOf, before, after] at flipped ⊢

theorem neg_fields (number : x.isNaN = false) :
    isNegative (-x) = !isNegative x ∧ exponentBits (-x) = exponentBits x ∧
      fractionBits (-x) = fractionBits x := by
  have unpacked : x.toModel.unpack ≠ .notANumber := fun missing =>
    Bool.eq_false_iff.mp number ((isNaN_iff x).mpr missing)
  obtain ⟨sign, exponent, mantissa, packed, negated⟩ := exists_packComponents_neg unpacked
  have bits : x.toModel.toBits.toBitVec =
      packComponents Format.binary64 sign exponent mantissa := by
    rw [← packed]
    exact (UnpackedFloat.pack_unpack_of_valid x.toModel.valid).symm
  have flipped : (-x).toModel.toBits.toBitVec =
      packComponents Format.binary64 (-sign) exponent mantissa := negated
  have before := ofBitVec_unpackSign x
  have after := ofBitVec_unpackSign (-x)
  rw [bits, UnpackedFloat.unpackSign_packComponents, Sign.ofBitVec_toBitVec] at before
  rw [flipped, UnpackedFloat.unpackSign_packComponents, Sign.ofBitVec_toBitVec, before] at after
  refine ⟨isNegative_eq_not after.symm, ?_, ?_⟩
  · rw [exponentBits, exponentBits, bits, flipped, UnpackedFloat.unpackExponent_packComponents,
      UnpackedFloat.unpackExponent_packComponents]
  · rw [fractionBits, fractionBits, bits, flipped, UnpackedFloat.unpackMantissa_packComponents,
      UnpackedFloat.unpackMantissa_packComponents]

namespace IsFinite

variable (finite : IsFinite x)

include finite

theorem neg : IsFinite (-x) := by
  rw [isFinite_iff, (neg_fields finite.isNaN).2.1]
  exact isFinite_iff.mp finite

theorem isNegative_neg : isNegative (-x) = !isNegative x := (neg_fields finite.isNaN).1

theorem units_neg : units (-x) = units x := by
  obtain ⟨-, exponent, fraction⟩ := neg_fields finite.isNaN
  by_cases small : (exponentBits x).toNat = 0
  · rw [units_subnormal small, units_subnormal (exponent ▸ small), fraction]
  · rw [units_normal small, units_normal (exponent ▸ small), exponent, fraction]

theorem neg_neg : - -x = x := by
  obtain ⟨sign, exponent, fraction⟩ := neg_fields finite.isNaN
  obtain ⟨signAgain, exponentAgain, fractionAgain⟩ := neg_fields finite.neg.isNaN
  refine eq_of_fields ?_ (exponentAgain.trans exponent) (fractionAgain.trans fraction)
  rw [signAgain, sign, Bool.not_not]

end IsFinite

end Tabular.Number
