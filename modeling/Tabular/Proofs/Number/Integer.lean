import Tabular.Proofs.Number.Numeral
import Tabular.Proofs.Number.Printed

/-! Integers: which texts they are, and the one text that each of them is printed as.

An integer is a run of digits behind an optional sign. Digits without a zero in front are those
that their value is printed with.
-/

set_option autoImplicit false

namespace Tabular.Number

open Text

/-! ## The digits of a value -/

section Digits

variable {digits : List Char}

theorem digitChar_of_isAsciiDigit {c : Char} (digit : isAsciiDigit c = true) :
    Nat.digitChar (c.toNat - '0'.toNat) = c := by
  obtain ⟨low, high⟩ := code_of_isAsciiDigit digit
  rw [← Char.toNat_inj, Nat.toNat_digitChar_of_lt_ten (by simp; omega)]
  simp
  omega

theorem toDigits_append {start : Nat} (positive : 0 < start)
    (all : ∀ c ∈ digits, isAsciiDigit c = true) :
    Nat.toDigits 10 start ++ digits = Nat.toDigits 10 (digitsValue digits start) := by
  induction digits generalizing start with
  | nil => exact List.append_nil _
  | cons c digits ih =>
    obtain ⟨digit, others⟩ := List.forall_mem_cons.mp all
    have within : c.toNat - '0'.toNat < 10 := by
      have code := code_of_isAsciiDigit digit
      simp
      omega
    have last : Nat.toDigits 10 (c.toNat - '0'.toNat) = [c] := by
      rw [Nat.toDigits_of_lt_base within, digitChar_of_isAsciiDigit digit]
    calc Nat.toDigits 10 start ++ c :: digits
      _ = Nat.toDigits 10 start ++ Nat.toDigits 10 (c.toNat - '0'.toNat) ++ digits := by
        rw [last, List.append_assoc, List.singleton_append]
      _ = Nat.toDigits 10 (start * 10 + (c.toNat - '0'.toNat)) ++ digits := by
        rw [Nat.toDigits_append_toDigits (by decide) positive within, Nat.mul_comm 10]
      _ = Nat.toDigits 10 (digitsValue (c :: digits) start) := ih (by omega) others

theorem toDigits_digitsValue (isDigits : IsDigits digits)
    (leading : digits = ['0'] ∨ digits.head? ≠ some '0') :
    Nat.toDigits 10 (digitsValue digits 0) = digits := by
  rcases leading with rfl | leading
  · rfl
  · -- The first digit is positive, and the others are read onto it.
    obtain ⟨c, others, rfl⟩ := List.exists_cons_of_ne_nil isDigits.nonempty
    obtain ⟨digit, all⟩ := List.forall_mem_cons.mp isDigits.all
    have code := code_of_isAsciiDigit digit
    have apart : c.toNat ≠ 48 := fun same => leading (congrArg some (Char.toNat_inj.mp same))
    have first : Nat.toDigits 10 (c.toNat - '0'.toNat) = [c] := by
      rw [Nat.toDigits_of_lt_base (by simp; omega), digitChar_of_isAsciiDigit digit]
    have value : digitsValue (c :: others) 0 = digitsValue others (c.toNat - '0'.toNat) := by
      simp [digitsValue]
    rw [value, ← toDigits_append (by simp; omega) all, first, List.singleton_append]

end Digits

/-! ## Reading -/

def signed (negative : Bool) (n : Nat) : Int := if negative then -(n : Int) else n

inductive IntegerOf : List Char → Int → Prop where
  | digits {sign digits : List Char} {negative : Bool} : SignOf sign negative → IsDigits digits →
      IntegerOf (sign ++ digits) (signed negative (digitsValue digits 0))

section Reading

variable {digits : List Char}

theorem IsDigits.stops (isDigits : IsDigits digits) : Stops isSignChar digits := by
  have behind := isDigits.stops_sign []
  rwa [List.append_nil] at behind

theorem digitIn_ten (c : Char) :
    digitIn 10 c = if isAsciiDigit c then some (c.toNat - '0'.toNat) else none := by
  cases digit : isAsciiDigit c with
  | true =>
    have small : c.toNat - '0'.toNat < 10 := by
      have code := code_of_isAsciiDigit digit
      simp
      omega
    rw [isAsciiDigit] at digit
    simp only [digitIn, digit, if_true, Option.filter_some, small, decide_true]
  | false =>
    rw [isAsciiDigit] at digit
    -- A letter stands for ten or more.
    have large (n : Nat) : (some (n + 10)).filter (· < 10) = none :=
      Option.filter_eq_none_iff.mpr fun _ held => by cases held; simp
    unfold digitIn
    rw [digit, if_neg Bool.false_ne_true, if_neg Bool.false_ne_true]
    split_ifs
    · exact large _
    · exact large _
    · rfl

theorem readDigits_ten_eq_some_iff {start n : Nat} :
    readDigits 10 digits start = some n ↔
      (∀ c ∈ digits, isAsciiDigit c = true) ∧ n = digitsValue digits start := by
  induction digits generalizing start with
  | nil =>
    exact ⟨fun read => ⟨List.forall_mem_nil _, (Option.some.inj read).symm⟩,
      fun ⟨_, same⟩ => congrArg some same.symm⟩
  | cons c digits ih =>
    rw [readDigits, digitIn_ten, List.forall_mem_cons]
    cases isAsciiDigit c with
    | true =>
      simp only [if_true, Option.bind_some, true_and]
      exact ih
    | false => simp

theorem readInteger_of_splitSign {chars : List Char} {negative : Bool}
    (split : splitSign chars = (negative, digits)) :
    readInteger chars =
      if digits.isEmpty then none
      else ((readDigits 10 digits 0).map (signed negative)).filter isSigned := by
  simp only [readInteger, split]
  cases readDigits 10 digits 0 <;> rfl

theorem readInteger_eq_some_iff {chars : List Char} {value : Int} :
    readInteger chars = some value ↔ IntegerOf chars value ∧ isSigned value = true := by
  constructor
  · intro read
    obtain ⟨sign, split, isSign⟩ := exists_sign chars
    generalize parts : splitSign chars = found at split isSign
    obtain ⟨negative, digits⟩ := found
    simp only [readInteger_of_splitSign parts, Option.ite_none_left_eq_some, List.isEmpty_iff,
      Option.filter_eq_some_iff, Option.map_eq_some_iff, readDigits_ten_eq_some_iff] at read
    obtain ⟨nonempty, ⟨n, ⟨all, rfl⟩, rfl⟩, within⟩ := read
    rw [split]
    exact ⟨.digits isSign ⟨nonempty, all⟩, within⟩
  · rintro ⟨@⟨sign, digits, negative, isSign, isDigits⟩, within⟩
    have read : readDigits 10 digits 0 = some (digitsValue digits 0) :=
      readDigits_ten_eq_some_iff.mpr ⟨isDigits.all, rfl⟩
    have nonempty : ¬digits.isEmpty = true := List.isEmpty_iff.not.mpr isDigits.nonempty
    rw [readInteger_of_splitSign (splitSign_append isSign isDigits.stops), if_neg nonempty, read,
      Option.map_some, Option.filter_some, if_pos within]

theorem IntegerOf.of_splitSign {chars : List Char} {value : Int} {negative : Bool}
    (isInteger : IntegerOf chars value) (split : splitSign chars = (negative, digits)) :
    IsDigits digits ∧ value = signed negative (digitsValue digits 0) := by
  cases isInteger with
  | digits isSign isDigits =>
    rw [splitSign_append isSign isDigits.stops, Prod.mk.injEq] at split
    obtain ⟨rfl, rfl⟩ := split
    exact ⟨isDigits, rfl⟩

end Reading

/-! ## Printing -/

theorem integerOf_toString (value : Int) : IntegerOf (toString value).toList value := by
  have digits (n : Nat) : IsDigits (Nat.toDigits 10 n) :=
    ⟨Nat.toDigits_ne_nil, fun c => isAsciiDigit_of_mem_toDigits⟩
  rcases lt_or_ge value 0 with negative | nonnegative
  · obtain ⟨n, rfl⟩ : ∃ n : Nat, value = -n := ⟨value.natAbs, by omega⟩
    have form := IntegerOf.digits .minus (digits n)
    rw [digitsValue_toDigits] at form
    rw [toList_toString_neg (by omega)]
    exact form
  · obtain ⟨n, rfl⟩ : ∃ n : Nat, value = n := ⟨value.toNat, by omega⟩
    have form := IntegerOf.digits .none (digits n)
    rw [digitsValue_toDigits] at form
    rw [toList_toString_natCast]
    exact form

end Tabular.Number
