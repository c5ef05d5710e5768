import Tabular.Number.Layout
import Tabular.Proofs.Number.Shortest
import Tabular.Proofs.Text.Digits

/-! Printed numbers: digits, a point among them and an exponent.

Every layout prints a finite number in such a form, and the decimal that the form stands for reads
back as the number.
-/

set_option autoImplicit false

namespace Tabular.Number

open Text

/-- The parts of a number in print. A whole part of more than one digit has no leading zero. -/
structure Printed where
  whole : List Char
  fraction : List Char
  exponent : Option Int
  nonempty : whole ≠ []
  digits : ∀ c ∈ whole ++ fraction, isAsciiDigit c = true
  leading : whole = ['0'] ∨ whole.head? ≠ some '0'

namespace Printed

def fractionChars (printed : Printed) : List Char :=
  if printed.fraction.isEmpty then [] else '.' :: printed.fraction

def exponentChars : Option Int → List Char
  | none => []
  | some exponent =>
    (if exponent < 0 then ['e', '-'] else ['e', '+']) ++ Nat.toDigits 10 exponent.natAbs

def chars (printed : Printed) : List Char :=
  printed.whole ++ printed.fractionChars ++ exponentChars printed.exponent

def decimal (printed : Printed) : Decimal :=
  ⟨digitsValue (printed.whole ++ printed.fraction) 0,
    printed.exponent.getD 0 - printed.fraction.length⟩

def isMarked (printed : Printed) : Bool := !printed.fraction.isEmpty || printed.exponent.isSome

end Printed

structure Significant (digits : List Char) : Prop where
  nonempty : digits ≠ []
  all : ∀ c ∈ digits, isAsciiDigit c = true
  leading : digits.head? ≠ some '0'

theorem all_zeros (count : Int) : ∀ c ∈ zeros count, isAsciiDigit c = true := by
  intro c member
  rw [List.eq_of_mem_replicate member]
  rfl

section Layouts

-- What is printed is unfolded in the lemmas about layouts alone.
attribute [local simp] Printed.chars Printed.fractionChars Printed.exponentChars Printed.isMarked
  positional scientific

variable {digits : List Char} (significant : Significant digits)

include significant

theorem exists_printed_below {point : Int} (low : point ≤ 0) (pointZero : Bool) :
    ∃ printed : Printed, printed.chars = positional pointZero digits point ∧
      printed.decimal = ⟨digitsValue digits 0, point - digits.length⟩ ∧
      printed.isMarked = true := by
  have all : ∀ c ∈ ['0'] ++ (zeros (-point) ++ digits), isAsciiDigit c = true := by
    simp only [List.forall_mem_append]
    exact ⟨by simp [isAsciiDigit], all_zeros _, significant.all⟩
  refine ⟨⟨['0'], zeros (-point) ++ digits, none, by simp, all, .inl rfl⟩, ?_, ?_, ?_⟩
  · simp [low, significant.nonempty]
  · have value : digitsValue (['0'] ++ (zeros (-point) ++ digits)) 0 = digitsValue digits 0 := by
      rw [digitsValue_append, digitsValue_append, zeros, digitsValue_zeros,
        show digitsValue ['0'] 0 = 0 from rfl, Nat.zero_mul]
    have length : (zeros (-point) ++ digits).length = -point + digits.length := by
      simp only [zeros, List.length_append, List.length_replicate]
      omega
    simp only [Printed.decimal, value, length, Decimal.mk.injEq, true_and, Option.getD_none]
    omega
  · simp [significant.nonempty]

theorem exists_printed_whole {point : Int} (high : 0 < point) (reaches : digits.length ≤ point)
    (pointZero : Bool) :
    ∃ printed : Printed, printed.chars = positional pointZero digits point ∧
      printed.decimal.toFloat =
        (Decimal.mk (digitsValue digits 0) (point - digits.length)).toFloat ∧
      printed.isMarked = pointZero := by
  have nonempty : digits ++ zeros (point - digits.length) ≠ [] :=
    List.append_ne_nil_of_left_ne_nil significant.nonempty _
  have leading : (digits ++ zeros (point - digits.length)).head? ≠ some '0' := by
    rw [List.head?_append_of_ne_nil _ significant.nonempty]
    exact significant.leading
  -- The zero behind the point, where one is kept, is one more zero behind the digits.
  have all : ∀ c ∈ digits ++ zeros (point - digits.length) ++ List.replicate pointZero.toNat '0',
      isAsciiDigit c = true := by
    simp only [List.forall_mem_append]
    exact ⟨⟨significant.all, all_zeros _⟩, all_zeros pointZero.toNat⟩
  refine ⟨⟨_, _, none, nonempty, all, .inr leading⟩, ?_, ?_, ?_⟩
  · cases pointZero <;> simp [high, reaches]
  · simp only [Printed.decimal, digitsValue_append, zeros, digitsValue_zeros, Nat.mul_assoc,
      ← Nat.pow_add, toFloat_mul_pow, Option.getD_none, List.length_replicate]
    congr 2
    omega
  · cases pointZero <;> rfl

theorem exists_printed_inside {point : Int} (high : 0 < point) (within : point < digits.length)
    (pointZero : Bool) :
    ∃ printed : Printed, printed.chars = positional pointZero digits point ∧
      printed.decimal = ⟨digitsValue digits 0, point - digits.length⟩ ∧
      printed.isMarked = true := by
  have nonempty : digits.take point.toNat ≠ [] := by
    simp [significant.nonempty]; omega
  have leading : (digits.take point.toNat).head? ≠ some '0' := by
    rw [List.head?_take, if_neg (by omega)]
    exact significant.leading
  have all : ∀ c ∈ digits.take point.toNat ++ digits.drop point.toNat, isAsciiDigit c = true := by
    rw [List.take_append_drop]
    exact significant.all
  have fraction : digits.drop point.toNat ≠ [] := by
    simp; omega
  refine ⟨⟨_, _, none, nonempty, all, .inr leading⟩, ?_, ?_, ?_⟩
  · simp [fraction, Int.not_le.mpr high, Int.not_le.mpr within]
  · simp only [Printed.decimal, List.take_append_drop, Option.getD_none, List.length_drop,
      Decimal.mk.injEq, true_and]
    omega
  · simp [fraction]

theorem exists_printed_positional (pointZero : Bool) (point : Int) :
    ∃ printed : Printed, printed.chars = positional pointZero digits point ∧
      printed.decimal.toFloat =
        (Decimal.mk (digitsValue digits 0) (point - digits.length)).toFloat ∧
      (pointZero = true → printed.isMarked = true) := by
  rcases le_or_gt point 0 with low | high
  · obtain ⟨printed, chars, decimal, marked⟩ := exists_printed_below significant low pointZero
    exact ⟨printed, chars, congrArg Decimal.toFloat decimal, fun _ => marked⟩
  · rcases le_or_gt (digits.length : Int) point with reaches | within
    · obtain ⟨printed, chars, decimal, marked⟩ :=
        exists_printed_whole significant high reaches pointZero
      exact ⟨printed, chars, decimal, fun kept => marked.trans kept⟩
    · obtain ⟨printed, chars, decimal, marked⟩ :=
        exists_printed_inside significant high within pointZero
      exact ⟨printed, chars, congrArg Decimal.toFloat decimal, fun _ => marked⟩

theorem exists_printed_scientific (exponent : Int) :
    ∃ printed : Printed, printed.chars = scientific digits exponent ∧
      printed.decimal = ⟨digitsValue digits 0, exponent + 1 - digits.length⟩ ∧
      printed.isMarked = true := by
  obtain ⟨first, others, rfl⟩ := List.exists_cons_of_ne_nil significant.nonempty
  refine ⟨⟨[first], others, some exponent, by simp, significant.all, .inr significant.leading⟩,
    ?_, ?_, ?_⟩
  · simp
  · simp [Printed.decimal]
  · simp

end Layouts

/-! ## Finite numbers -/

theorem exists_dropZeros_append (digits : List Char) :
    ∃ count, digits = dropZeros digits ++ List.replicate count '0' := by
  refine ⟨(digits.reverse.takeWhile (· == '0')).length, ?_⟩
  have same : digits.reverse.takeWhile (· == '0') =
      List.replicate (digits.reverse.takeWhile (· == '0')).length '0' :=
    List.eq_replicate_of_mem fun c member => by simpa using List.mem_takeWhile_imp member
  calc digits
    _ = (digits.reverse.takeWhile (· == '0') ++ digits.reverse.dropWhile (· == '0')).reverse := by
      rw [List.takeWhile_append_dropWhile, List.reverse_reverse]
    _ = dropZeros digits ++ (digits.reverse.takeWhile (· == '0')).reverse := List.reverse_append
    _ = _ := congrArg _ ((congrArg List.reverse same).trans (List.reverse_replicate ..))

theorem exists_digits_eq (n : Nat) :
    ∃ count, n = digitsValue (dropZeros (Nat.toDigits 10 n)) 0 * 10 ^ count ∧
      (Nat.toDigits 10 n).length = (dropZeros (Nat.toDigits 10 n)).length + count := by
  obtain ⟨count, split⟩ := exists_dropZeros_append (Nat.toDigits 10 n)
  refine ⟨count, ?_, ?_⟩
  · rw [← digitsValue_zeros, ← digitsValue_append, ← split, digitsValue_toDigits]
  · have length := congrArg List.length split
    rwa [List.length_append, List.length_replicate] at length

theorem significant_dropZeros {n : Nat} (nonzero : n ≠ 0) :
    Significant (dropZeros (Nat.toDigits 10 n)) := by
  obtain ⟨count, split⟩ := exists_dropZeros_append (Nat.toDigits 10 n)
  have nonempty : dropZeros (Nat.toDigits 10 n) ≠ [] := by
    intro none
    obtain ⟨count, value, -⟩ := exists_digits_eq n
    rw [none, show digitsValue [] 0 = 0 from rfl, Nat.zero_mul] at value
    exact nonzero value
  refine ⟨nonempty, fun c member => ?_, ?_⟩
  · refine isAsciiDigit_of_mem_toDigits (n := n) ?_
    rw [split]
    exact List.mem_append_left _ member
  · have leading := head?_toDigits_ne_zero nonzero
    rwa [split, List.head?_append_of_ne_nil _ nonempty] at leading

theorem toFloat_dropZeros (decimal : Decimal) :
    (Decimal.mk (digitsValue (dropZeros (Nat.toDigits 10 decimal.digits)) 0)
      ((Nat.toDigits 10 decimal.digits).length + decimal.exponent
        - (dropZeros (Nat.toDigits 10 decimal.digits)).length)).toFloat = decimal.toFloat := by
  obtain ⟨digits, exponent⟩ := decimal
  obtain ⟨count, value, length⟩ := exists_digits_eq digits
  have shifted : ((Nat.toDigits 10 digits).length : Int) + exponent
      - (dropZeros (Nat.toDigits 10 digits)).length = exponent + count := by omega
  rw [shifted, ← toFloat_mul_pow, ← value]

theorem exists_printed_magnitudeText (layout : Layout) {x : Float} (finite : IsFinite x)
    (positive : isNegative x = false) :
    ∃ printed : Printed, printed.chars = magnitudeText layout x ∧ printed.decimal.toFloat = x ∧
      (layout.pointZero = true → printed.isMarked = true) := by
  by_cases zero : units x = 0
  · have read : ofNat 0 = x := ofNat_of_units finite positive (by rw [zero, Nat.zero_mul])
    simp only [magnitudeText, if_pos zero]
    cases layout.pointZero with
    | true =>
      exact ⟨⟨['0'], ['0'], none, by simp, by simp [isAsciiDigit], .inl rfl⟩, rfl, read,
        fun _ => rfl⟩
    | false =>
      exact ⟨⟨['0'], [], none, by simp, by simp [isAsciiDigit], .inl rfl⟩, rfl, read,
        fun kept => nomatch kept⟩
  · have significant :=
      significant_dropZeros (shortest_digits_ne_zero layout.tie finite positive zero)
    have read := toFloat_dropZeros (shortest layout.tie x)
    rw [toFloat_shortest layout.tie finite positive zero] at read
    simp only [magnitudeText, if_neg zero]
    split_ifs
    · obtain ⟨printed, chars, decimal, marked⟩ :=
        exists_printed_positional significant layout.pointZero _
      exact ⟨printed, chars, decimal.trans read, marked⟩
    · obtain ⟨printed, chars, decimal, marked⟩ := exists_printed_scientific significant _
      refine ⟨printed, chars, ?_, fun _ => marked⟩
      rw [decimal, Int.sub_add_cancel, read]

/-- A printed number is its printed magnitude behind a minus or nothing, and stands for itself. -/
theorem exists_printed_finiteText (layout : Layout) {x : Float} (finite : IsFinite x) :
    ∃ printed : Printed,
      finiteText layout x = (if isNegative x then '-' :: printed.chars else printed.chars) ∧
      withSign (isNegative x) printed.decimal.toFloat = x ∧
      (layout.pointZero = true → printed.isMarked = true) := by
  cases sign : isNegative x with
  | true =>
    obtain ⟨printed, chars, read, marked⟩ := exists_printed_magnitudeText layout finite.neg
      (by rw [finite.isNegative_neg, sign, Bool.not_true])
    refine ⟨printed, ?_, ?_, marked⟩
    · rw [finiteText, if_pos sign, chars, if_pos rfl]
    · rw [read, withSign, if_pos rfl, finite.neg_neg]
  | false =>
    obtain ⟨printed, chars, read, marked⟩ := exists_printed_magnitudeText layout finite sign
    refine ⟨printed, ?_, ?_, marked⟩
    · rw [finiteText, if_neg (Bool.eq_false_iff.mp sign), chars, if_neg Bool.false_ne_true]
    · rw [read, withSign, if_neg Bool.false_ne_true]

end Tabular.Number
