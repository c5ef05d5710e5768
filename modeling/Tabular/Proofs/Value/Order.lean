import Tabular.Proofs.Number.Order
import Tabular.Value.Compare

/-! The order that rows are sorted in.

The order of values is a total preorder: numbers by what they stand for, then NaN, then all
other values by the collation of their display forms. Values are level only where those
agree, so a stable sort by this order is well defined.
-/

set_option autoImplicit false

namespace Tabular.Value

/-! ## Numbers -/

/-- NaN has a place of its own in the order of numbers, so its units do not count. -/
def numberRank (x : Float) : Int := if x.isNaN then 0 else Number.signedUnits x

theorem compareNumbers_eq (x y : Float) :
    compareNumbers x y =
      (compare x.isNaN y.isNaN).then (compare (numberRank x) (numberRank y)) := by
  unfold compareNumbers numberRank
  split
  · rename_i less
    obtain ⟨number, other⟩ := Number.isNaN_eq_false_of_lt less
    rw [Number.lt_iff_signedUnits_lt number other] at less
    simp only [number, other, Bool.false_eq_true, if_false, compare_lt_iff_lt.mpr less]
    rfl
  · rename_i notLess
    split
    · rename_i greater
      obtain ⟨other, number⟩ := Number.isNaN_eq_false_of_lt greater
      rw [Number.lt_iff_signedUnits_lt other number] at greater
      simp only [number, other, Bool.false_eq_true, if_false, compare_gt_iff_gt.mpr greater]
      rfl
    · rename_i notGreater
      cases number : x.isNaN <;> cases other : y.isNaN
      · rw [Number.lt_iff_signedUnits_lt number other] at notLess
        rw [Number.lt_iff_signedUnits_lt other number] at notGreater
        have same : Number.signedUnits x = Number.signedUnits y := by omega
        simp only [Bool.false_eq_true, if_false, compare_eq_iff_eq.mpr same]
        rfl
      · rfl
      · rfl
      · rfl

instance : Std.TransCmp compareNumbers := by
  -- A lexicographic comparison of two ranks, so that the library derives transitivity.
  have same : compareNumbers = compareLex (compareOn Float.isNaN) (compareOn numberRank) := by
    funext x y
    exact compareNumbers_eq x y
  rw [same]
  infer_instance

theorem compareNumbers_nan_left {x : Float} (missing : x.isNaN = true) (y : Float) :
    compareNumbers x y = if y.isNaN then .eq else .gt := by
  rw [compareNumbers_eq, missing]
  cases other : y.isNaN
  · rfl
  · simp only [numberRank, missing, other, if_true, compare_eq_iff_eq.mpr]
    rfl

theorem compareNumbers_number {x y : Float} (number : x.isNaN = false) (other : y.isNaN = false) :
    compareNumbers x y = compare (Number.signedUnits x) (Number.signedUnits y) := by
  rw [compareNumbers_eq, number, other]
  simp only [numberRank, number, other, Bool.false_eq_true, if_false]
  rfl

/-! ## Texts -/

instance : Std.TransCmp collate :=
  inferInstanceAs (Std.TransCmp (compareLex (compareOn fun text => Text.lowerChars text.toList)
    fun first second => compareOn String.toList second first))

/-- The tie-break tells texts apart that lower-case alike. -/
theorem collate_eq_iff (first second : String) : collate first second = .eq ↔ first = second := by
  unfold collate
  rw [Ordering.then_eq_eq, Std.LawfulEqCmp.compare_eq_iff_eq, Std.LawfulEqCmp.compare_eq_iff_eq]
  constructor
  · intro same
    exact (String.toList_injective same.2).symm
  · intro same
    exact ⟨by rw [same], by rw [same]⟩

/-! ## Values -/

theorem eq_number_of_asNumber {value : Value} {x : Float} (number : value.asNumber = some x) :
    value = .number x := by
  cases value with
  | number y => exact congrArg Value.number (Option.some.inj number)
  | _ => cases number

theorem order_number_left {value : Value} (other : value.asNumber = none) (x : Float) :
    order (.number x) value = .lt := by
  cases value with
  | number y => cases other
  | _ => rfl

theorem order_number_right {value : Value} (other : value.asNumber = none) (x : Float) :
    order value (.number x) = .gt := by
  cases value with
  | number y => cases other
  | _ => rfl

theorem order_others {first second : Value} (left : first.asNumber = none)
    (right : second.asNumber = none) :
    order first second = collate first.display second.display := by
  cases first with
  | number x => cases left
  | _ =>
    cases second with
    | number y => cases right
    | _ => rfl

theorem order_swap (first second : Value) : order first second = (order second first).swap := by
  cases left : first.asNumber with
  | some x =>
    rw [eq_number_of_asNumber left]
    cases right : second.asNumber with
    | some y =>
      rw [eq_number_of_asNumber right]
      exact (Std.OrientedCmp.eq_swap : compareNumbers x y = (compareNumbers y x).swap)
    | none =>
      rw [order_number_left right, order_number_right right]
      rfl
  | none =>
    cases right : second.asNumber with
    | some y =>
      rw [eq_number_of_asNumber right, order_number_left left, order_number_right left]
      rfl
    | none =>
      rw [order_others left right, order_others right left]
      exact Std.OrientedCmp.eq_swap

instance : Std.OrientedCmp order where
  eq_swap := order_swap _ _

theorem asNumber_eq_none_of_isLE {first second : Value} (other : first.asNumber = none)
    (below : (order first second).isLE = true) : second.asNumber = none := by
  cases number : second.asNumber with
  | none => rfl
  | some y =>
    rw [eq_number_of_asNumber number, order_number_right other] at below
    cases below

theorem order_trans {first second third : Value} (below : (order first second).isLE = true)
    (above : (order second third).isLE = true) : (order first third).isLE = true := by
  -- Numbers stand in front, so one behind a value that is none cannot occur in the middle.
  cases left : first.asNumber with
  | none =>
    have middle := asNumber_eq_none_of_isLE left below
    have right := asNumber_eq_none_of_isLE middle above
    rw [order_others left middle] at below
    rw [order_others middle right] at above
    rw [order_others left right]
    exact Std.TransCmp.isLE_trans below above
  | some x =>
    obtain rfl := eq_number_of_asNumber left
    cases right : third.asNumber with
    | none =>
      rw [order_number_left right]
      rfl
    | some z =>
      obtain rfl := eq_number_of_asNumber right
      cases middle : second.asNumber with
      | none => cases asNumber_eq_none_of_isLE middle above
      | some y =>
        obtain rfl := eq_number_of_asNumber middle
        simp only [order] at below above ⊢
        exact Std.TransCmp.isLE_trans below above

instance : Std.TransCmp order where
  isLE_trans := order_trans

/-- The order of values is a total preorder. Numbers come first, in numeric order and with
NaN after all others; other values are level only when they display alike. -/
theorem order_total_preorder :
    (∀ a : Value, order a a = .eq) ∧
    (∀ a b : Value, order b a = (order a b).swap) ∧
    (∀ a b c : Value, (order a b).isLE = true → (order b c).isLE = true →
      (order a c).isLE = true) ∧
    (∀ (x : Float) (a : Value), a.asNumber = none → order (.number x) a = .lt) ∧
    (∀ x y : Float, x.isNaN = true →
      order (.number x) (.number y) = if y.isNaN then .eq else .gt) ∧
    (∀ x y : Float, x.isNaN = false → y.isNaN = false →
      (order (.number x) (.number y) = .lt ↔ Number.value x < Number.value y) ∧
      (order (.number x) (.number y) = .eq ↔ Number.value x = Number.value y)) ∧
    (∀ a b : Value, a.asNumber = none → b.asNumber = none →
      (order a b = .eq ↔ a.display = b.display)) ∧
    ∀ s t : String, collate s t = .eq ↔ s = t := by
  refine ⟨fun a => Std.ReflCmp.compare_self, fun a b => order_swap b a,
    fun a b c => order_trans, fun x a other => order_number_left other x,
    fun x y missing => compareNumbers_nan_left missing y, ?_, ?_, collate_eq_iff⟩
  · intro x y number other
    simp only [order, compareNumbers_number number other, compare_lt_iff_lt, compare_eq_iff_eq]
    exact ⟨(Number.value_lt_value number other).symm, (Number.value_eq_value number other).symm⟩
  · intro a b left right
    rw [order_others left right]
    exact collate_eq_iff _ _

end Tabular.Value
