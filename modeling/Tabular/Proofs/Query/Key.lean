import Tabular.Proofs.Query.Partition

/-! Keys: how far the key of a group tells rows apart.

A key joins the display forms of the grouping columns with a bar and does not mark the bars that
they hold themselves. Rows of one key agree in every grouping column as soon as they hold
equally many bars there; without that, what one column lacks may stand in the next.
-/

set_option autoImplicit false

namespace Tabular.Group

/-! ## Joined parts -/

section Joined

variable {α : Type} {separator : α}

theorem intercalate_concat {parts : List (List α)} (nonempty : parts ≠ []) (last : List α) :
    [separator].intercalate (parts ++ [last]) =
      [separator].intercalate parts ++ separator :: last := by
  induction parts with
  | nil => exact absurd rfl nonempty
  | cons part rest ih =>
    cases rest with
    | nil => simp [List.intercalate_cons_cons, List.intercalate_singleton]
    | cons next rest =>
      have later := ih (List.cons_ne_nil next rest)
      simp only [List.cons_append, List.intercalate_cons_cons, List.append_assoc] at later ⊢
      rw [later]

variable [DecidableEq α]

/-- The first part ends where its separators have been counted off. -/
theorem append_cons_inj {first other rest others : List α}
    (counts : first.count separator = other.count separator)
    (same : first ++ separator :: rest = other ++ separator :: others) :
    first = other ∧ rest = others := by
  induction first generalizing other with
  | nil =>
    cases other with
    | nil => exact ⟨rfl, List.tail_eq_of_cons_eq same⟩
    | cons c other =>
      obtain ⟨rfl, -⟩ := List.cons.inj same
      simp at counts
  | cons c first ih =>
    cases other with
    | nil =>
      obtain ⟨rfl, -⟩ := List.cons.inj same
      simp at counts
    | cons d other =>
      obtain ⟨rfl, tails⟩ := List.cons.inj same
      simp only [List.count_cons, Nat.add_right_cancel_iff] at counts
      obtain ⟨rfl, rests⟩ := ih counts tails
      exact ⟨rfl, rests⟩

theorem eq_of_intercalate_eq {β : Type} {first second : β → List α} {items : List β}
    (same : [separator].intercalate (items.map first) = [separator].intercalate (items.map second))
    (counts : ∀ item ∈ items.dropLast,
      (first item).count separator = (second item).count separator) :
    ∀ item ∈ items, first item = second item := by
  induction items with
  | nil => exact List.forall_mem_nil _
  | cons item rest ih =>
    cases rest with
    | nil => simpa [List.intercalate_singleton] using same
    | cons next rest =>
      rw [List.dropLast_cons_cons] at counts
      obtain ⟨here, later⟩ := List.forall_mem_cons.mp counts
      simp only [List.map_cons, List.intercalate_cons_cons, List.append_assoc,
        List.singleton_append] at same
      obtain ⟨equal, tails⟩ := append_cons_inj here same
      exact List.forall_mem_cons.mpr ⟨equal, ih tails later⟩

end Joined

/-! ## Keys of rows -/

def shown (row : Row) (column : String) : List Char := (row.value column).display.toList

def bars (row : Row) (column : String) : Nat := (shown row column).count '|'

variable {row other : Row}

theorem toList_keyOf (columns : List String) (row : Row) :
    (keyOf columns row).toList = ['|'].intercalate (columns.map (shown row)) := by
  rw [keyOf, String.toList_intercalate, List.map_map]
  rfl

theorem shown_eq_iff (column : String) :
    shown row column = shown other column ↔
      (row.value column).display = (other.value column).display :=
  String.toList_inj

theorem keyOf_eq_iff (columns : List String) :
    keyOf columns row = keyOf columns other ↔
      ['|'].intercalate (columns.map (shown row)) =
        ['|'].intercalate (columns.map (shown other)) := by
  rw [← String.toList_inj, toList_keyOf, toList_keyOf]

theorem keyOf_congr {columns : List String}
    (same : ∀ column ∈ columns, shown row column = shown other column) :
    keyOf columns row = keyOf columns other := by
  rw [keyOf_eq_iff, List.map_congr_left same]

/-- A column that is added to the key splits off again where its bars are counted. -/
theorem keyOf_eq_iff_of_added {columns : List String} {added : String}
    (same : keyOf (columns ++ [added]) row = keyOf (columns ++ [added]) other) :
    keyOf columns row = keyOf columns other ↔ bars row added = bars other added := by
  rw [keyOf_eq_iff, List.map_append, List.map_append] at same
  by_cases alone : columns = []
  · -- The rows agree in the only column there is.
    subst alone
    simp only [List.map_nil, List.nil_append, List.map_cons, List.intercalate_singleton] at same
    exact iff_of_true rfl (congrArg (List.count '|') same)
  · have parts (row : Row) : columns.map (shown row) ≠ [] := fun none =>
      alone (List.map_eq_nil_iff.mp none)
    simp only [List.map_cons, List.map_nil, intercalate_concat (parts _)] at same
    rw [keyOf_eq_iff]
    constructor
    · intro prefixes
      rw [prefixes] at same
      exact congrArg (List.count '|') (List.tail_eq_of_cons_eq (List.append_cancel_left same))
    · intro counts
      have total := congrArg (List.count '|') same
      simp only [List.count_append, List.count_cons_self] at total
      unfold bars at counts
      exact (append_cons_inj (by omega) same).1

/-- Rows share a group when they share a key, and agree in every grouping column when they
also hold equally many bars in all but the last. A column that is added splits groups, unless
the rows of a group hold a different number of bars in it. -/
theorem agree_iff_key_eq_and_bars_eq (columns : List String) (row other : Row) :
    ((∀ column ∈ columns, (row.value column).display = (other.value column).display) ↔
      keyOf columns row = keyOf columns other ∧
        ∀ column ∈ columns.dropLast, bars row column = bars other column) ∧
    (∀ added, keyOf (columns ++ [added]) row = keyOf (columns ++ [added]) other →
      (keyOf columns row = keyOf columns other ↔ bars row added = bars other added)) ∧
    (∀ rows, row ∈ rows → other ∈ rows →
      ((∃ group ∈ partition columns rows, row ∈ group.rows ∧ other ∈ group.rows) ↔
        keyOf columns row = keyOf columns other)) := by
  refine ⟨?_, fun added => keyOf_eq_iff_of_added, fun rows => shares_group_iff⟩
  simp only [← shown_eq_iff]
  constructor
  · intro same
    refine ⟨keyOf_congr same, fun column member => ?_⟩
    exact congrArg (List.count '|') (same column ((List.dropLast_sublist columns).mem member))
  · rintro ⟨same, counts⟩
    exact eq_of_intercalate_eq ((keyOf_eq_iff columns).mp same) counts

/-- A truth value and the text of its name display alike, so these rows share their group. -/
theorem agree_of_equal_display :
    let row := Row.ofList [("city", .text "Ulm|Bonn"), ("open", .boolean true)]
    let other := Row.ofList [("city", .text "Ulm|Bonn"), ("open", .text "true")]
    (keyOf (["city"] ++ ["open"]) row = keyOf (["city"] ++ ["open"]) other ∧
      (keyOf ["city"] row = keyOf ["city"] other ↔ bars row "open" = bars other "open")) ∧
    (row ∈ [row, other] ∧ other ∈ [row, other] ∧
      ((∃ group ∈ partition ["city"] [row, other], row ∈ group.rows ∧ other ∈ group.rows) ↔
        keyOf ["city"] row = keyOf ["city"] other)) := by
  intro row other
  have joined : keyOf (["city"] ++ ["open"]) row = keyOf (["city"] ++ ["open"]) other := by decide
  have first : row ∈ [row, other] := List.mem_cons_self
  have second : other ∈ [row, other] := List.mem_cons_of_mem row List.mem_cons_self
  obtain ⟨-, splits, shares⟩ := agree_iff_key_eq_and_bars_eq ["city"] row other
  exact ⟨⟨joined, splits "open" joined⟩, first, second, shares [row, other] first second⟩

/-- What one row shows before a bar of its own the other shows in the next column. -/
theorem key_merges_shifted_bar :
    let row := Row.ofList [("city", .text "Ulm|Bonn"), ("shop", .text "East")]
    let other := Row.ofList [("city", .text "Ulm"), ("shop", .text "Bonn|East")]
    keyOf ["city", "shop"] row = keyOf ["city", "shop"] other ∧
    (row.value "city").display ≠ (other.value "city").display ∧
    keyOf ["city"] row ≠ keyOf ["city"] other := by
  decide

end Tabular.Group
