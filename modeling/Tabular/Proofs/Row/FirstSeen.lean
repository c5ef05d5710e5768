import Mathlib.Data.List.Induction
import Tabular.Column

/-! Names in order of first appearance.

Each name of a list is kept once, in its first place. Names that are appended to a list add
those that it does not have yet.
-/

set_option autoImplicit false

namespace Tabular

@[simp] theorem mem_firstSeen {name : String} {names : List String} :
    name ∈ firstSeen names ↔ name ∈ names := by
  induction names with
  | nil => rfl
  | cons first rest ih =>
    by_cases same : name = first <;> simp [firstSeen, same, ih]

theorem nodup_firstSeen (names : List String) : (firstSeen names).Nodup := by
  induction names with
  | nil => exact List.nodup_nil
  | cons name rest ih =>
    refine List.nodup_cons.mpr ⟨fun member => ?_, ih.filter _⟩
    exact bne_iff_ne.mp (List.mem_filter.mp member).2 rfl

theorem mem_columnNames {name : String} {rows : List Row} :
    name ∈ columnNames rows ↔ ∃ row ∈ rows, name ∈ row.columns := by
  rw [columnNames, mem_firstSeen, List.mem_flatMap]

theorem nodup_columnNames (rows : List Row) : (columnNames rows).Nodup := nodup_firstSeen _

theorem firstSeen_pairwise_idxOf (names : List String) :
    (firstSeen names).Pairwise fun first second => names.idxOf first < names.idxOf second := by
  induction names with
  | nil => exact .nil
  | cons name rest ih =>
    have later {other : String} (member : other ∈ (firstSeen rest).filter (· != name)) :
        (name :: rest).idxOf other = rest.idxOf other + 1 := by
      have different : (name == other) = false :=
        beq_eq_false_iff_ne.mpr (bne_iff_ne.mp (List.mem_filter.mp member).2).symm
      rw [List.idxOf_cons, different]
      rfl
    refine List.pairwise_cons.mpr ⟨fun other member => ?_, ?_⟩
    · rw [List.idxOf_cons_self, later member]
      exact Nat.succ_pos _
    · refine (ih.filter _).imp_of_mem fun left right below => ?_
      rw [later left, later right]
      exact Nat.succ_lt_succ below

theorem firstSeen_of_nodup {names : List String} (distinct : names.Nodup) :
    firstSeen names = names := by
  induction names with
  | nil => rfl
  | cons name rest ih =>
    obtain ⟨absent, others⟩ := List.nodup_cons.mp distinct
    rw [firstSeen, ih others, List.filter_eq_self.mpr]
    intro other member
    exact bne_iff_ne.mpr fun same => absent (same ▸ member)

theorem firstSeen_append (names others : List String) :
    firstSeen (names ++ others) =
      firstSeen names ++ (firstSeen others).filter fun name => !names.contains name := by
  induction names with
  | nil => exact (List.filter_eq_self.mpr fun _ _ => rfl).symm
  | cons name rest ih =>
    simp only [List.cons_append, firstSeen, ih, List.filter_append, List.filter_filter,
      List.contains_cons, Bool.not_or, bne]

/-- A pass that puts a name behind those it has seen, unless it is one of them. -/
def seeName (seen : List String) (name : String) : List String :=
  if seen.contains name then seen else seen ++ [name]

theorem foldl_seeName (names : List String) : names.foldl seeName [] = firstSeen names := by
  -- What is seen last stands last, so the list is taken apart from its end.
  induction names using List.reverseRecOn with
  | nil => rfl
  | append_singleton names name ih =>
    have member : (firstSeen names).contains name = names.contains name := by
      rw [Bool.eq_iff_iff, List.contains_iff_mem, List.contains_iff_mem, mem_firstSeen]
    have alone : firstSeen [name] = [name] := rfl
    rw [List.foldl_append, ih, List.foldl_cons, List.foldl_nil, seeName, member, firstSeen_append,
      alone, List.filter_cons, List.filter_nil]
    cases names.contains name <;> simp

theorem firstSeen_filter (test : String → Bool) (names : List String) :
    firstSeen (names.filter test) = (firstSeen names).filter test := by
  induction names with
  | nil => rfl
  | cons name rest ih =>
    have either : ((firstSeen rest).filter (· != name)).filter test =
        ((firstSeen rest).filter test).filter (· != name) := by
      simp only [List.filter_filter, Bool.and_comm]
    by_cases kept : test name = true
    · rw [List.filter_cons_of_pos kept, firstSeen, firstSeen, List.filter_cons_of_pos kept, ih,
        either]
    · -- The name is none of those that are kept.
      have others : ∀ other ∈ (firstSeen rest).filter test, (other != name) = true := by
        intro other member
        exact bne_iff_ne.mpr fun same => kept (same ▸ (List.mem_filter.mp member).2)
      rw [List.filter_cons_of_neg kept, firstSeen, List.filter_cons_of_neg kept, ih, either,
        List.filter_eq_self.mpr others]

theorem firstSeen_append_cons {name : String} {names : List String} (member : name ∈ names)
    (others : List String) : firstSeen (names ++ name :: others) = firstSeen (names ++ others) := by
  have dropped : ∀ other ∈ firstSeen others,
      (!names.contains other && other != name) = !names.contains other := by
    intro other _
    by_cases same : other = name
    · simp [same, member]
    · simp [same]
  have present : names.contains name = true := List.contains_iff_mem.mpr member
  rw [firstSeen_append, firstSeen_append, firstSeen, List.filter_cons, present,
    List.filter_filter, List.filter_congr dropped]
  rfl

end Tabular
