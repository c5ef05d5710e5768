import Tabular.Proofs.Service.Cap
import Tabular.Proofs.Value.Order

/-! Sorted rows.

A comparison sorts a list in one way when level items keep their order: two sorted lists are the
same as soon as they hold the same level items in the same order. Rows are sorted in this way in
both directions, so the one direction is the other one read backwards, and a limit cuts the end off
the one sorted list.
-/

set_option autoImplicit false

namespace Tabular

/-! ## Sorted lists -/

section Lists

variable {α : Type} {compare : α → α → Ordering} {items sorted other : List α}

def InOrder (compare : α → α → Ordering) (first second : α) : Prop :=
  (compare first second).isLE = true

instance (compare : α → α → Ordering) : DecidableRel (InOrder compare) := fun first second =>
  inferInstanceAs (Decidable ((compare first second).isLE = true))

def levelWith (compare : α → α → Ordering) (item : α) (items : List α) : List α :=
  items.filter fun other => compare item other == .eq

/-- The items in order, where level ones keep the order that they had. -/
structure StablySorted (compare : α → α → Ordering) (items sorted : List α) : Prop where
  perm : sorted.Perm items
  ordered : sorted.IsChain (InOrder compare)
  level : ∀ item, levelWith compare item sorted = levelWith compare item items

theorem levelWith_cons (item first : α) (items : List α) :
    levelWith compare item (first :: items) =
      if compare item first = .eq then first :: levelWith compare item items
      else levelWith compare item items := by
  simp only [levelWith, List.filter_cons, beq_iff_eq]

theorem levelWith_reverse (item : α) (items : List α) :
    levelWith compare item items.reverse = (levelWith compare item items).reverse :=
  List.filter_reverse

variable [Std.TransCmp compare]

theorem InOrder.trans {first second third : α} (below : InOrder compare first second)
    (above : InOrder compare second third) : InOrder compare first third :=
  Std.TransCmp.isLE_trans below above

theorem InOrder.total (first second : α) :
    InOrder compare first second ∨ InOrder compare second first := by
  have swapped : compare second first = (compare first second).swap := Std.OrientedCmp.eq_swap
  rw [InOrder, InOrder, swapped]
  cases compare first second <;> simp

theorem StablySorted.pairwise (stable : StablySorted compare items sorted) :
    sorted.Pairwise (InOrder compare) := by
  have : Trans (InOrder compare) (InOrder compare) (InOrder compare) := ⟨InOrder.trans⟩
  exact stable.ordered.pairwise

theorem inOrder_of_level {first second : α} {rest : List α}
    (ordered : (first :: rest).Pairwise (InOrder compare))
    (level : second ∈ levelWith compare second (first :: rest)) : InOrder compare first second := by
  rcases List.mem_cons.mp (List.mem_filter.mp level).1 with rfl | member
  · exact Std.ReflCmp.isLE_rfl
  · exact List.rel_of_pairwise_cons ordered member

theorem mem_levelWith_self (item : α) (items : List α) :
    item ∈ levelWith compare item (item :: items) := by
  rw [levelWith_cons, if_pos Std.ReflCmp.compare_self]
  exact List.mem_cons_self

/-- Sorted lists are the same when they hold the same level items in the same order. -/
theorem eq_of_levelWith_eq (left : sorted.Pairwise (InOrder compare))
    (right : other.Pairwise (InOrder compare))
    (level : ∀ item, levelWith compare item sorted = levelWith compare item other) :
    sorted = other := by
  induction sorted generalizing other with
  | nil =>
    cases other with
    | nil => rfl
    | cons second rest =>
      exact absurd (level second ▸ mem_levelWith_self second rest) List.not_mem_nil
  | cons first others ih =>
    cases other with
    | nil => exact absurd (level first ▸ mem_levelWith_self first others) List.not_mem_nil
    | cons second rest =>
      -- Each head stands in the other list as well, so the two are level.
      have below := inOrder_of_level left (level second ▸ mem_levelWith_self second rest)
      have above := inOrder_of_level right (level first ▸ mem_levelWith_self first others)
      have same : compare first second = .eq := Std.OrientedCmp.isLE_antisymm below above
      have heads := level first
      rw [levelWith_cons, levelWith_cons, if_pos Std.ReflCmp.compare_self, if_pos same] at heads
      obtain ⟨rfl, -⟩ := List.cons.inj heads
      congr 1
      refine ih left.tail right.tail fun item => ?_
      have tails := level item
      rw [levelWith_cons, levelWith_cons] at tails
      split at tails
      · exact List.tail_eq_of_cons_eq tails
      · exact tails

theorem StablySorted.unique (stable : StablySorted compare items sorted)
    (again : StablySorted compare items other) : other = sorted :=
  eq_of_levelWith_eq again.pairwise stable.pairwise fun item =>
    (again.level item).trans (stable.level item).symm

theorem StablySorted.filter (stable : StablySorted compare items sorted) (keep : α → Bool) :
    StablySorted compare (items.filter keep) (sorted.filter keep) := by
  refine ⟨stable.perm.filter keep, (stable.pairwise.filter keep).isChain, fun item => ?_⟩
  calc levelWith compare item (sorted.filter keep)
    _ = (levelWith compare item sorted).filter keep := List.filter_comm _ _ sorted
    _ = (levelWith compare item items).filter keep := by rw [stable.level]
    _ = levelWith compare item (items.filter keep) := List.filter_comm _ _ items

theorem inOrder_of_mem_levelWith {item first second : α}
    (left : first ∈ levelWith compare item items) (right : second ∈ levelWith compare item items) :
    InOrder compare first second := by
  have above : compare item first = .eq := beq_iff_eq.mp (List.mem_filter.mp left).2
  have below : compare item second = .eq := beq_iff_eq.mp (List.mem_filter.mp right).2
  have same : compare first second = .eq :=
    Std.TransCmp.eq_trans (Std.OrientedCmp.eq_symm above) below
  rw [InOrder, same]
  rfl

theorem levelWith_swap {first second : α} (apart : compare first second ≠ .eq) (item : α)
    (items : List α) :
    levelWith compare item (first :: second :: items) =
      levelWith compare item (second :: first :: items) := by
  have exclusive : compare item first = .eq → compare item second ≠ .eq := fun same level =>
    apart (Std.TransCmp.eq_trans (Std.OrientedCmp.eq_symm same) level)
  simp only [levelWith_cons]
  by_cases same : compare item first = .eq
  · simp only [if_pos same, if_neg (exclusive same)]
  · simp only [if_neg same]

/-- Merge sort keeps the order of level items, for these are sorted as they stand. -/
theorem stablySorted_mergeSort (compare : α → α → Ordering) [Std.TransCmp compare]
    (items : List α) :
    StablySorted compare items
      (items.mergeSort fun first second => (compare first second).isLE) := by
  have perm := List.mergeSort_perm items fun first second => (compare first second).isLE
  have trans (first second third : α) : (compare first second).isLE = true →
      (compare second third).isLE = true → (compare first third).isLE = true :=
    Std.TransCmp.isLE_trans
  have total (first second : α) :
      ((compare first second).isLE || (compare second first).isLE) = true :=
    Bool.or_eq_true_iff.mpr (InOrder.total first second)
  refine ⟨perm, (List.pairwise_mergeSort trans total items).isChain, fun item => ?_⟩
  have inside : (levelWith compare item items).Sublist
      (items.mergeSort fun first second => (compare first second).isLE) :=
    List.sublist_mergeSort trans total
      (List.pairwise_of_forall_mem_list fun _ left _ right => inOrder_of_mem_levelWith left right)
      List.filter_sublist
  have kept := inside.filter fun other => compare item other == .eq
  rw [levelWith, List.filter_filter] at kept
  simp only [Bool.and_self] at kept
  exact (kept.eq_of_length (perm.filter _).length_eq.symm).symm

/-- A sorted list read backwards is sorted the other way round. Level items are then as they stood
before the list was reversed. -/
theorem StablySorted.reverse (stable : StablySorted compare items.reverse sorted) :
    StablySorted (fun first second => compare second first) items sorted.reverse := by
  have level (item : α) (items : List α) :
      levelWith (fun first second => compare second first) item items =
        levelWith compare item items :=
    List.filter_congr fun other _ => by rw [Bool.eq_iff_iff, beq_iff_eq, beq_iff_eq,
      Std.OrientedCmp.eq_comm]
  refine ⟨?_, List.isChain_reverse.mpr stable.ordered, fun item => ?_⟩
  · exact sorted.reverse_perm.trans (stable.perm.trans items.reverse_perm)
  · rw [level, level, levelWith_reverse, stable.level, levelWith_reverse, List.reverse_reverse]

end Lists

/-! ## Sorted rows -/

namespace SortBy

/-- The rows in the order of a column: upwards none is followed by a lesser one, downwards none by a
greater one, and rows level in the column keep the order that they had. -/
structure Sorts (sortBy : SortBy) (rows sorted : List Row) : Prop where
  perm : sorted.Perm rows
  ordered : sorted.IsChain fun first second =>
    (first.value sortBy.column).order (second.value sortBy.column) ≠
      match sortBy.direction with | .ascending => .gt | .descending => .lt
  level : ∀ row : Row,
    (sorted.filter fun other =>
      (row.value sortBy.column).order (other.value sortBy.column) == .eq) =
    rows.filter fun other => (row.value sortBy.column).order (other.value sortBy.column) == .eq

theorem compare_descending (column : String) (first second : Row) :
    compare ⟨column, .descending⟩ first second = compare ⟨column, .ascending⟩ second first :=
  (Value.order_swap _ _).symm

instance (sortBy : SortBy) : Std.TransCmp sortBy.compare := by
  obtain ⟨column, direction⟩ := sortBy
  cases direction with
  | ascending =>
    exact {
      eq_swap := Value.order_swap _ _
      isLE_trans := Value.order_trans }
  | descending =>
    rw [funext₂ (compare_descending column)]
    exact {
      eq_swap := Value.order_swap _ _
      isLE_trans := fun below above => Value.order_trans above below }

theorem inOrder_compare_iff (sortBy : SortBy) (first second : Row) :
    InOrder sortBy.compare first second ↔
      (first.value sortBy.column).order (second.value sortBy.column) ≠
        match sortBy.direction with | .ascending => .gt | .descending => .lt := by
  rw [InOrder, compare]
  cases (first.value sortBy.column).order (second.value sortBy.column) <;>
    cases sortBy.direction <;> simp [Direction.apply]

theorem levelWith_compare (sortBy : SortBy) (row : Row) (rows : List Row) :
    levelWith sortBy.compare row rows = rows.filter fun other =>
      (row.value sortBy.column).order (other.value sortBy.column) == .eq := by
  refine List.filter_congr fun other _ => ?_
  rw [compare]
  cases (row.value sortBy.column).order (other.value sortBy.column) <;>
    cases sortBy.direction <;> rfl

theorem sorts_iff_stablySorted (sortBy : SortBy) (rows sorted : List Row) :
    sortBy.Sorts rows sorted ↔ StablySorted sortBy.compare rows sorted := by
  constructor
  · rintro ⟨perm, ordered, level⟩
    refine ⟨perm, ordered.imp fun _ _ => (inOrder_compare_iff sortBy _ _).mpr, fun row => ?_⟩
    rw [levelWith_compare, levelWith_compare]
    exact level row
  · rintro ⟨perm, ordered, level⟩
    refine ⟨perm, ordered.imp fun _ _ => (inOrder_compare_iff sortBy _ _).mp, fun row => ?_⟩
    rw [← levelWith_compare, ← levelWith_compare]
    exact level row

theorem stablySorted_sort (sortBy : SortBy) (rows : List Row) :
    StablySorted sortBy.compare rows (sortBy.sort rows) :=
  stablySorted_mergeSort sortBy.compare rows

theorem sort_filter (sortBy : SortBy) (test : Row → Bool) (rows : List Row) :
    sortBy.sort (rows.filter test) = (sortBy.sort rows).filter test :=
  ((sortBy.stablySorted_sort rows).filter test).unique (sortBy.stablySorted_sort _)

theorem sort_of_pairwise {sortBy : SortBy} {rows : List Row}
    (ordered : rows.Pairwise (InOrder sortBy.compare)) : sortBy.sort rows = rows :=
  List.mergeSort_of_pairwise ordered

theorem sort_descending (column : String) (rows : List Row) :
    sort ⟨column, .descending⟩ rows = (sort ⟨column, .ascending⟩ rows.reverse).reverse := by
  have backwards := (stablySorted_sort ⟨column, .ascending⟩ rows.reverse).reverse
  rw [← funext₂ (compare_descending column)] at backwards
  exact backwards.unique (stablySorted_sort ⟨column, .descending⟩ rows)

end SortBy

/-- A query that sorts has the first rows, up to its limit, of the one list that has the rows of the
input in order and leaves level rows as they stood, whichever the direction. Downwards is upwards
over the reversed rows, read backwards, and a smaller limit leaves a front part of what a larger one
leaves. -/
theorem orderAndLimit_stable (rows : List Row) :
    (∀ sortBy : SortBy, ∃ sorted : List Row, sortBy.Sorts rows sorted ∧
      (∀ other : List Row, sortBy.Sorts rows other → other = sorted) ∧
      ∀ limit : Option Nat, orderAndLimit (some sortBy) limit rows =
        sorted.take (limit.elim sorted.length fun count => min count sorted.length)) ∧
    (∀ limit : Option Nat, orderAndLimit none limit rows =
      rows.take (limit.elim rows.length fun count => min count rows.length)) ∧
    (∀ column : String, orderAndLimit (some ⟨column, .descending⟩) none rows =
      (orderAndLimit (some ⟨column, .ascending⟩) none rows.reverse).reverse) ∧
    ∀ (sortBy : Option SortBy) (fewer more : Nat),
      orderAndLimit sortBy (some fewer) rows <+: orderAndLimit sortBy (some (fewer + more)) rows ∧
      orderAndLimit sortBy (some fewer) rows <+: orderAndLimit sortBy none rows := by
  refine ⟨fun sortBy => ?_, fun limit => takeLimit_eq_take limit rows,
    fun column => SortBy.sort_descending column rows, fun sortBy fewer more => ⟨?_, ?_⟩⟩
  · have stable := sortBy.stablySorted_sort rows
    refine ⟨sortBy.sort rows, (sortBy.sorts_iff_stablySorted _ _).mpr stable, ?_,
      fun limit => takeLimit_eq_take limit _⟩
    intro other sorts
    exact stable.unique ((sortBy.sorts_iff_stablySorted _ _).mp sorts)
  · exact List.take_prefix_take_left (Nat.le_add_right fewer more)
  · exact List.take_prefix fewer _

/-- Downwards, the two shops of one city keep their order. -/
theorem orderAndLimit_stable_level_downwards :
    let east := Row.ofList [("city", .text "Ulm"), ("shop", .text "East")]
    let other := Row.ofList [("city", .text "Bonn")]
    let west := Row.ofList [("city", .text "Ulm"), ("shop", .text "West")]
    let sortBy : SortBy := ⟨"city", .descending⟩
    sortBy.Sorts [east, other, west] [east, west, other] ∧
      orderAndLimit (some sortBy) (some 2) [east, other, west] = [east, west] := by
  intro east other west sortBy
  have sorts : sortBy.Sorts [east, other, west] [east, west, other] := by
    refine ⟨.cons east (.swap other west []), by decide, fun row => ?_⟩
    have others : levelWith sortBy.compare row [west, other] =
        levelWith sortBy.compare row [other, west] := levelWith_swap (by decide) row []
    rw [← SortBy.levelWith_compare, ← SortBy.levelWith_compare, levelWith_cons _ east, others,
      ← levelWith_cons]
  obtain ⟨sorted, -, unique, cut⟩ := (orderAndLimit_stable [east, other, west]).1 sortBy
  refine ⟨sorts, ?_⟩
  rw [cut, ← unique _ sorts]
  rfl

end Tabular
