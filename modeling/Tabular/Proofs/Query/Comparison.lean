import Tabular.Proofs.Number.Comparison
import Tabular.Proofs.Value.Cell
import Tabular.Query.Structured

/-! Comparisons of cells with operands.

Equality goes by the kinds of the two sides and order by their numeric views. Apart from two texts
and from two nulls, equality goes by the numeric views as well, so there it is the same as being
both at least and at most the other side. Without a numeric view nothing is ordered.
-/

set_option autoImplicit false

namespace Tabular

namespace Value

def IsNumeric (value : Value) : Prop := value.toNumber.isNaN = false

/-! ## Equality -/

theorem toNumber_boolean (value : Bool) :
    toNumber (.boolean value) = Number.ofNat value.toNat := by
  cases value <;> rfl

theorem isNaN_toNumber_null : (toNumber .null).isNaN = true := isNaN_toNumber_of_isNull rfl

theorem any_parseNumber (raw : String) (x : Float) :
    (parseNumber raw).any (· == x) = (toNumber (.text raw) == x) := by
  cases read : parseNumber raw with
  | some y => rw [toNumber, read, Option.any_some, Option.getD_some]
  | none =>
    rw [toNumber, read, Option.any_none, Option.getD_none, Number.beq_comm,
      Number.beq_notANumber]

theorem looselyEquals_boolean (first second : Bool) :
    looselyEquals (.boolean first) (.boolean second) =
      (toNumber (.boolean first) == toNumber (.boolean second)) := by
  rw [toNumber_boolean, toNumber_boolean,
    Number.beq_ofNat (by cases first <;> decide) (by cases second <;> decide)]
  cases first <;> cases second <;> rfl

/-- Apart from two texts and from two nulls, values are equal when their numeric views are. -/
theorem looselyEquals_eq_beq {first second : Value}
    (texts : ¬(first.asText.isSome = true ∧ second.asText.isSome = true))
    (nulls : ¬(first.isNull = true ∧ second.isNull = true)) :
    first.looselyEquals second = (first.toNumber == second.toNumber) := by
  cases first with
  | null =>
    rw [Number.beq_of_isNaN (.inl isNaN_toNumber_null)]
    cases second with
    | null => exact absurd ⟨rfl, rfl⟩ nulls
    | _ => rfl
  | boolean value =>
    cases second with
    | null => exact (Number.beq_of_isNaN (.inr isNaN_toNumber_null)).symm
    | boolean other => exact looselyEquals_boolean value other
    | _ => rfl
  | number x =>
    cases second with
    | null => exact (Number.beq_of_isNaN (.inr isNaN_toNumber_null)).symm
    | text raw => exact (any_parseNumber raw x).trans (Number.beq_comm _ x)
    | _ => rfl
  | text raw =>
    cases second with
    | null => exact (Number.beq_of_isNaN (.inr isNaN_toNumber_null)).symm
    | number x => exact any_parseNumber raw x
    | text other => exact absurd ⟨rfl, rfl⟩ texts
    | boolean value => rfl

theorem looselyEquals_comm (first second : Value) :
    first.looselyEquals second = second.looselyEquals first := by
  cases first with
  | null => cases second <;> rfl
  | boolean value =>
    cases second with
    | null => rfl
    | boolean other => exact BEq.comm
    | number x => exact Number.beq_comm _ _
    | text raw => exact Number.beq_comm _ _
  | number x =>
    cases second with
    | null => rfl
    | boolean value => exact Number.beq_comm _ _
    | number y => exact Number.beq_comm _ _
    | text raw => rfl
  | text raw =>
    cases second with
    | null => rfl
    | boolean value => exact Number.beq_comm _ _
    | number x => rfl
    | text other => exact BEq.comm

theorem looselyEquals_self_iff (value : Value) :
    value.looselyEquals value = true ↔ ∀ x, value = .number x → x.isNaN = false := by
  cases value with
  | number x =>
    constructor
    · intro same y equal
      rw [← number.inj equal, Bool.eq_false_iff]
      intro missing
      exact Bool.eq_false_iff.mp (Number.beq_of_isNaN (.inl missing)) same
    · intro number
      exact Number.beq_self (number x rfl)
  | null => exact iff_of_true rfl nofun
  | boolean value => exact iff_of_true (beq_self_eq_true value) nofun
  | text raw => exact iff_of_true (beq_self_eq_true raw) nofun

end Value

namespace Operator

variable {first second : Value} (high : Option Value)

/-! ## Order -/

theorem holds_ordered (numeric : first.IsNumeric) (other : second.IsNumeric) :
    [lessThan.holds first second high, first.toNumber == second.toNumber,
        greaterThan.holds first second high].count true = 1 ∧
      atLeast.holds first second high = !lessThan.holds first second high ∧
      atMost.holds first second high = !greaterThan.holds first second high := by
  let left := Number.signedUnits first.toNumber
  let right := Number.signedUnits second.toNumber
  have less : lessThan.holds first second high = decide (left < right) :=
    decide_eq_decide.mpr (Number.lt_iff_signedUnits_lt numeric other)
  have greater : greaterThan.holds first second high = decide (right < left) :=
    decide_eq_decide.mpr (Number.lt_iff_signedUnits_lt other numeric)
  have least : atLeast.holds first second high = decide (right ≤ left) :=
    decide_eq_decide.mpr (Number.le_iff_signedUnits_le other numeric)
  have most : atMost.holds first second high = decide (left ≤ right) :=
    decide_eq_decide.mpr (Number.le_iff_signedUnits_le numeric other)
  have equal : (first.toNumber == second.toNumber) = decide (left = right) := by
    rw [Bool.eq_iff_iff, Number.beq_iff_signedUnits_eq numeric other, decide_eq_true_iff]
  rw [less, greater, least, most, equal]
  refine ⟨?_, ?_, ?_⟩
  · rcases Int.lt_trichotomy left right with below | same | above
    · simp [below, below.ne, below.le]
    · simp [same]
    · simp [above, above.ne', above.le]
  · rw [← decide_not, decide_eq_decide, Int.not_lt]
  · rw [← decide_not, decide_eq_decide, Int.not_lt]

theorem holds_unordered (missing : ¬(first.IsNumeric ∧ second.IsNumeric)) :
    greaterThan.holds first second high = false ∧ lessThan.holds first second high = false ∧
      atLeast.holds first second high = false ∧ atMost.holds first second high = false := by
  have either : first.toNumber.isNaN = true ∨ second.toNumber.isNaN = true := by
    simpa only [Value.IsNumeric, not_and_or, Bool.not_eq_false] using missing
  exact ⟨decide_eq_false (Number.not_lt_of_isNaN either.symm),
    decide_eq_false (Number.not_lt_of_isNaN either),
    decide_eq_false (Number.not_le_of_isNaN either.symm),
    decide_eq_false (Number.not_le_of_isNaN either)⟩

theorem holds_both_bounds_iff :
    (atLeast.holds first second high = true ∧ atMost.holds first second high = true) ↔
      (first.toNumber == second.toNumber) = true := by
  rw [Number.beq_iff_le_and_le, holds, holds, decide_eq_true_iff, decide_eq_true_iff, ge_iff_le]

end Operator

/-! ## Ranges -/

theorem Filter.keep_between (before after : List Filter) (column : String) (low bound : Value)
    (spare other : Option Value) :
    keep (before ++ .between column low bound :: after) =
      keep (before ++ ⟨column, .atLeast, low, spare⟩ ::
        ⟨column, .atMost, bound, other⟩ :: after) := by
  funext rows
  refine List.filter_congr fun row _ => ?_
  simp only [List.all_append, List.all_cons, accepts, between, Operator.holds, Bool.and_assoc]

def StructuredQuery.filteredBy (query : StructuredQuery) (filters : List Filter) :
    StructuredQuery :=
  { query with filters := filters }

theorem StructuredQuery.run_filteredBy (query : StructuredQuery) (filters : List Filter)
    (rows : List Row) :
    (query.filteredBy filters).run rows =
      orderAndLimit query.orderBy query.limit (query.shape (Filter.keep filters rows)) :=
  rfl

/-- The comparison operators agree on all values. Equality is symmetric, and only NaN differs from
itself. Where equality is not between two texts or two nulls it is being at least and at most the
other side, and for two texts with numeric views it implies both. Numeric views are in one of three
relations, and without them nothing is ordered. A range is the same as a filter for each bound. -/
theorem Operator.holds_consistent (first second : Value) (high : Option Value) :
    first.looselyEquals second = second.looselyEquals first ∧
    (first.looselyEquals first = true ↔ ∀ x, first = .number x → x.isNaN = false) ∧
    (¬(first.asText.isSome = true ∧ second.asText.isSome = true) →
      ¬(first.isNull = true ∧ second.isNull = true) →
      (equals.holds first second high = true ↔
        atLeast.holds first second high = true ∧ atMost.holds first second high = true)) ∧
    (first.IsNumeric → second.IsNumeric →
      [lessThan.holds first second high, first.toNumber == second.toNumber,
          greaterThan.holds first second high].count true = 1 ∧
        atLeast.holds first second high = !lessThan.holds first second high ∧
        atMost.holds first second high = !greaterThan.holds first second high) ∧
    (¬(first.IsNumeric ∧ second.IsNumeric) →
      greaterThan.holds first second high = false ∧ lessThan.holds first second high = false ∧
        atLeast.holds first second high = false ∧ atMost.holds first second high = false) ∧
    (∀ s t, first = .text s → second = .text t → first.IsNumeric → second.IsNumeric →
      equals.holds first second high = true →
      atLeast.holds first second high = true ∧ atMost.holds first second high = true) ∧
    ∀ bound : Value,
      (between.holds first second (some bound) = true ↔
        atLeast.holds first second high = true ∧ atMost.holds first bound high = true) ∧
      ∀ (query : StructuredQuery) (rows : List Row) (before after : List Filter)
        (column : String) (spare other : Option Value),
        (query.filteredBy (before ++ .between column second bound :: after)).run rows =
          (query.filteredBy (before ++ ⟨column, .atLeast, second, spare⟩ ::
            ⟨column, .atMost, bound, other⟩ :: after)).run rows := by
  refine ⟨Value.looselyEquals_comm first second, Value.looselyEquals_self_iff first, ?_,
    holds_ordered high, holds_unordered high, ?_, fun bound => ⟨?_, ?_⟩⟩
  · intro texts nulls
    rw [holds_both_bounds_iff, holds, Value.looselyEquals_eq_beq texts nulls]
  · intro s t left right numeric _ equal
    subst left right
    have same : s = t := beq_iff_eq.mp equal
    rw [holds_both_bounds_iff, same]
    exact Number.beq_self (same ▸ numeric)
  · exact Bool.and_eq_true_iff
  · intro query rows before after column spare other
    rw [StructuredQuery.run_filteredBy, StructuredQuery.run_filteredBy,
      Filter.keep_between before after column second bound spare other]

/-- A literal in base sixteen, the number it reads as, and a text that is no numeral. -/
theorem Operator.holds_consistent_hexadecimal :
    let literal : Value := .text "0x10"
    let number : Value := .number (Number.ofNat 16)
    let other : Value := .text "n/a"
    ¬(literal.asText.isSome = true ∧ number.asText.isSome = true) ∧
    ¬(literal.isNull = true ∧ number.isNull = true) ∧
    literal.IsNumeric ∧ number.IsNumeric ∧ ¬(literal.IsNumeric ∧ other.IsNumeric) ∧
    equals.holds literal literal none = true ∧
    (equals.holds literal number none = true ↔
      atLeast.holds literal number none = true ∧ atMost.holds literal number none = true) ∧
    [lessThan.holds literal number none, literal.toNumber == number.toNumber,
      greaterThan.holds literal number none].count true = 1 ∧
    greaterThan.holds literal other none = false ∧
    atLeast.holds literal literal none = true ∧ atMost.holds literal literal none = true := by
  intro literal number other
  have read : literal.toNumber = Number.ofNat 16 := by
    have word : Value.parseNumber "0x10" = some (Number.ofNat 16) := rfl
    simp only [literal, Value.toNumber, word, Option.getD_some]
  have literalNumeric : literal.IsNumeric := by
    rw [Value.IsNumeric, read]
    exact Number.isNaN_ofRatio 16 1
  have numberNumeric : number.IsNumeric := Number.isNaN_ofRatio 16 1
  have missing : ¬(literal.IsNumeric ∧ other.IsNumeric) := by
    rintro ⟨-, numeric⟩
    have unread : other.toNumber.isNaN = true := by decide
    exact Bool.eq_false_iff.mp numeric unread
  have texts : ¬(literal.asText.isSome = true ∧ number.asText.isSome = true) := by decide
  have nulls : ¬(literal.isNull = true ∧ number.isNull = true) := by decide
  have equal : equals.holds literal literal none = true := by decide
  obtain ⟨-, -, mixed, ordered, -⟩ := holds_consistent literal number none
  obtain ⟨-, -, -, -, unordered, -⟩ := holds_consistent literal other none
  obtain ⟨-, -, -, -, -, both, -⟩ := holds_consistent literal literal none
  exact ⟨texts, nulls, literalNumeric, numberNumeric, missing, equal, mixed texts nulls,
    (ordered literalNumeric numberNumeric).1, (unordered missing).1,
    both "0x10" "0x10" rfl rfl literalNumeric literalNumeric equal⟩

end Tabular
