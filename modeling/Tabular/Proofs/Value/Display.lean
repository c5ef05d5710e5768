import Tabular.Proofs.Number.Comparison
import Tabular.Proofs.Number.Printed
import Tabular.Proofs.Query.Key
import Tabular.Proofs.Value.Numeral

/-! What is displayed for a value, read again.

A number is displayed by a numeral that stands for it, so equal displays are equal numbers and a
key of numbers keeps them apart. What is displayed for a cell is a cell for the same value.
-/

set_option autoImplicit false

namespace Tabular

/-! ## Printed numbers -/

namespace Number

open Text

variable {x : Float}

theorem exponentOf_exponentChars (exponent : Option Int) :
    ExponentOf (Printed.exponentChars exponent) (exponent.getD 0) := by
  cases exponent with
  | none => exact .none
  | some exponent =>
    have digits : IsDigits (Nat.toDigits 10 exponent.natAbs) :=
      ⟨Nat.toDigits_ne_nil, fun c => isAsciiDigit_of_mem_toDigits⟩
    have mark : 'e' = 'e' ∨ 'e' = 'E' := .inl rfl
    rw [Option.getD_some, Printed.exponentChars]
    split
    · have read := ExponentOf.marked mark .minus digits
      rw [if_pos rfl, digitsValue_toDigits,
        show -(exponent.natAbs : Int) = exponent by omega] at read
      exact read
    · have read := ExponentOf.marked mark .plus digits
      rw [if_neg Bool.false_ne_true, digitsValue_toDigits,
        show (exponent.natAbs : Int) = exponent by omega] at read
      exact read

theorem Printed.decimalOf (printed : Printed) : DecimalOf printed.chars printed.decimal := by
  have tail := exponentOf_exponentChars printed.exponent
  unfold chars fractionChars decimal
  split
  · rename_i whole
    rw [List.isEmpty_iff] at whole
    have digits := printed.digits
    rw [whole, List.append_nil] at digits
    simp only [whole, List.append_nil, List.length_nil, Int.natCast_zero, Int.sub_zero]
    exact .whole ⟨printed.nonempty, digits⟩ tail
  · rw [List.append_assoc, List.cons_append]
    exact .pointed ⟨List.append_ne_nil_of_left_ne_nil printed.nonempty _, printed.digits⟩ tail

end Number

/-! ## Displayed numbers -/

namespace Value

open Number Text

variable {x y : Float}

theorem numeralOf_finiteText (finite : IsFinite x) :
    NumeralOf (finiteText plainLayout x) x := by
  obtain ⟨printed, chars, read, -⟩ := exists_printed_finiteText plainLayout finite
  rw [chars]
  cases sign : isNegative x with
  | true =>
    have numeral := NumeralOf.decimal .minus printed.decimalOf
    rw [← sign, read] at numeral
    exact numeral
  | false =>
    have numeral := NumeralOf.decimal .none printed.decimalOf
    rw [← sign, read] at numeral
    exact numeral

theorem exists_numeralOf_display (number : x.isNaN = false) :
    ∃ y, NumeralOf (display (.number x)).toList y ∧ (y == x) = true := by
  have same {y : Float} (other : y.isNaN = false) (counted : units y = units x)
      (sign : isNegative y = isNegative x) : (y == x) = true := by
    rw [beq_iff_signedUnits_eq other number, signedUnits, signedUnits, signOf, signOf, sign,
      counted]
  simp only [display, displayNumber, number, Bool.false_eq_true, if_false]
  split_ifs with infinite negative zero
  · refine ⟨-Number.infinity, .minusInfinity, same (by decide) ?_ ?_⟩
    · exact units_eq_units_of_isInf (by decide) infinite
    · rw [negative]
      decide
  · refine ⟨Number.infinity, .infinity, same (by decide) ?_ ?_⟩
    · exact units_eq_units_of_isInf (by decide) infinite
    · rw [Bool.eq_false_iff.mpr negative]
      decide
  · have shown : finiteText plainLayout 0 = "0".toList := by decide
    have numeral := numeralOf_finiteText isFinite_zero
    rw [shown] at numeral
    have uncounted {z : Float} (none : units z = 0) : signedUnits z = 0 :=
      Int.natAbs_eq_zero.mp ((natAbs_signedUnits z).trans none)
    refine ⟨0, numeral, ?_⟩
    rw [beq_iff_signedUnits_eq isFinite_zero.isNaN number, uncounted units_zero, uncounted zero]
  · have finite : IsFinite x := by rw [IsFinite, number, Bool.eq_false_iff.mpr infinite]; rfl
    rw [String.toList_ofList]
    exact ⟨x, numeralOf_finiteText finite, beq_self number⟩

theorem display_number_eq_iff (number : x.isNaN = false) (other : y.isNaN = false) :
    display (.number x) = display (.number y) ↔ (x == y) = true := by
  constructor
  · intro same
    obtain ⟨z, numeral, equal⟩ := exists_numeralOf_display number
    obtain ⟨w, otherNumeral, otherEqual⟩ := exists_numeralOf_display other
    have read := parseNumber_of_numeral numeral
    have otherRead := parseNumber_of_numeral otherNumeral
    rw [same, otherRead] at read
    obtain rfl := Option.some.inj read
    have known := isNaN_parseNumber otherRead
    rw [beq_iff_signedUnits_eq known number] at equal
    rw [beq_iff_signedUnits_eq known other] at otherEqual
    rw [beq_iff_signedUnits_eq number other, ← equal, otherEqual]
  · intro equal
    obtain ⟨-, -, rfl | ⟨rfl, rfl⟩ | ⟨rfl, rfl⟩⟩ := Float.beq_iff_ne_nan_and_eq.mp equal
    · rfl
    · decide
    · decide

/-! ## Displayed cells -/

inductive Same : Value → Value → Prop where
  | null : Same .null .null
  | boolean (value : Bool) : Same (.boolean value) (.boolean value)
  | number {first second : Float} : (first == second) = true →
      Same (.number first) (.number second)
  | text (value : String) : Same (.text value) (.text value)

theorem ofCell_of_parseNumber {raw : String} (read : parseNumber raw = some x) :
    ofCell raw = .number x := by
  have cell := cellOf_ofCell raw
  generalize ofCell raw = value at cell ⊢
  cases cell with
  | blank blank =>
    have trimmed : trimChars raw.toList = [] := by
      rw [trimChars, List.dropWhile_eq_nil_iff.mpr (List.all_eq_true.mp blank)]
      rfl
    rw [parseNumber, trimmed] at read
    cases read
  | truth value filled word =>
    rw [parseNumber_of_isTruthWord word] at read
    cases read
  | number y filled plain again => rw [Option.some.inj (again.symm.trans read)]
  | text filled plain unread =>
    rw [unread] at read
    cases read

/-- What is displayed for a cell is a cell for the same value. -/
theorem ofCell_display {raw : String} (filled : raw.toList.all isBlank = false) :
    (ofCell (ofCell raw).display).Same (ofCell raw) := by
  have cell := cellOf_ofCell raw
  cases stands : ofCell raw with
  | null =>
    rw [stands] at cell
    cases cell with
    | blank blank =>
      rw [filled] at blank
      cases blank
  | boolean truth =>
    have read : ofCell (display (.boolean truth)) = .boolean truth := by cases truth <;> decide
    rw [read]
    exact .boolean truth
  | number x =>
    rw [stands] at cell
    cases cell with
    | number _ _ _ read =>
      obtain ⟨y, numeral, equal⟩ := exists_numeralOf_display (isNaN_parseNumber read)
      rw [ofCell_of_parseNumber (parseNumber_of_numeral numeral)]
      exact .number equal
  | text other =>
    rw [stands] at cell
    cases cell with
    | text =>
      change (ofCell raw).Same (.text raw)
      rw [stands]
      exact .text raw

end Value

/-! ## Keys of numbers -/

/-- No number is displayed with a bar, so the parts of a key of numbers are told apart. -/
theorem Group.keyOf_numbers_eq_iff {columns : List String} {row other : Row} {x y : String → Float}
    (held : ∀ column ∈ columns, row.value column = .number (x column) ∧
      other.value column = .number (y column) ∧
      (x column).isNaN = false ∧ (y column).isNaN = false) :
    keyOf columns row = keyOf columns other ↔
      ∀ column ∈ columns, (x column == y column) = true := by
  have unbarred {z : Float} (number : z.isNaN = false) :
      (Value.display (.number z)).toList.count '|' = 0 := by
    obtain ⟨_, numeral, -⟩ := Value.exists_numeralOf_display number
    rw [List.count_eq_zero]
    exact fun member => absurd (numeral.wordChars '|' member) (by decide)
  have equal (column : String) (member : column ∈ columns) :
      shown row column = shown other column ↔ (x column == y column) = true := by
    obtain ⟨first, second, number, otherNumber⟩ := held column member
    rw [shown_eq_iff, first, second, Value.display_number_eq_iff number otherNumber]
  constructor
  · intro same column member
    rw [← equal column member]
    refine eq_of_intercalate_eq ((keyOf_eq_iff columns).mp same) ?_ column member
    intro column member
    obtain ⟨first, second, number, otherNumber⟩ :=
      held column ((List.dropLast_sublist columns).mem member)
    rw [shown, shown, first, second, unbarred number, unbarred otherNumber]
  · intro numbers
    exact keyOf_congr fun column member => (equal column member).mpr (numbers column member)

namespace Value

open Number Text

/-- The display of a number reads back as an equal number, so numbers are displayed alike, and
rows that hold them share a key, exactly when the numbers are equal. What is displayed for a cell
that is not blank is a cell for an equal value. -/
theorem display_faithful :
    (∀ x : Float, x.isNaN = false →
      ∃ y, parseNumber (display (.number x)) = some y ∧ (y == x) = true) ∧
    (∀ x y : Float, x.isNaN = false → y.isNaN = false →
      (display (.number x) = display (.number y) ↔ (x == y) = true)) ∧
    (∀ (columns : List String) (row other : Row) (x y : String → Float),
      (∀ column ∈ columns, row.value column = .number (x column) ∧
        other.value column = .number (y column) ∧
        (x column).isNaN = false ∧ (y column).isNaN = false) →
      (Group.keyOf columns row = Group.keyOf columns other ↔
        ∀ column ∈ columns, (x column == y column) = true)) ∧
    ∀ raw : String, raw.toList.all isBlank = false →
      (ofCell (ofCell raw).display).Same (ofCell raw) := by
  refine ⟨fun x number => ?_, fun x y => display_number_eq_iff, fun columns row other x y =>
    Group.keyOf_numbers_eq_iff, fun raw => ofCell_display⟩
  obtain ⟨y, numeral, equal⟩ := exists_numeralOf_display number
  exact ⟨y, parseNumber_of_numeral numeral, equal⟩

/-- The zeros share their display and their key; a literal is displayed in base ten. -/
theorem display_faithful_zeros :
    let zero := Float.ofBits 0
    let minusZero := Float.ofBits 0x8000000000000000
    let row := Row.ofList [("n", .number zero), ("m", .number infinity)]
    let other := Row.ofList [("n", .number minusZero), ("m", .number infinity)]
    let x (column : String) := if column = "n" then zero else infinity
    let y (column : String) := if column = "n" then minusZero else infinity
    (minusZero.isNaN = false ∧
      ∃ z, parseNumber (display (.number minusZero)) = some z ∧ (z == minusZero) = true) ∧
    (zero.isNaN = false ∧
      (display (.number zero) = display (.number minusZero) ↔ (zero == minusZero) = true)) ∧
    ((∀ column ∈ ["n", "m"], row.value column = .number (x column) ∧
        other.value column = .number (y column) ∧
        (x column).isNaN = false ∧ (y column).isNaN = false) ∧
      (Group.keyOf ["n", "m"] row = Group.keyOf ["n", "m"] other ↔
        ∀ column ∈ ["n", "m"], (x column == y column) = true)) ∧
    " 0X1f ".toList.all isBlank = false ∧
      (ofCell (ofCell " 0X1f ").display).Same (ofCell " 0X1f ") := by
  intro zero minusZero row other x y
  have number : zero.isNaN = false := by decide
  have otherNumber : minusZero.isNaN = false := by decide
  have held : ∀ column ∈ ["n", "m"], row.value column = .number (x column) ∧
      other.value column = .number (y column) ∧
      (x column).isNaN = false ∧ (y column).isNaN = false := by
    decide
  have filled : " 0X1f ".toList.all isBlank = false := by decide
  obtain ⟨reads, displays, keys, cells⟩ := display_faithful
  exact ⟨⟨otherNumber, reads minusZero otherNumber⟩,
    ⟨number, displays zero minusZero number otherNumber⟩,
    ⟨held, keys ["n", "m"] row other x y held⟩, filled, cells " 0X1f " filled⟩

end Value

end Tabular
