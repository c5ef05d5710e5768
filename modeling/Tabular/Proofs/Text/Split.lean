import Tabular.Text.Split

/-! Splitting undoes joining, also when the parts are joined with a blank behind each separator. -/

set_option autoImplicit false

namespace Tabular.Text

variable {α : Type} [DecidableEq α]

theorem splitAt_eq_splitOn (separator : α) (text : List α) :
    splitAt separator text = text.splitOn separator := by
  induction text with
  | nil => rfl
  | cons c rest ih =>
    rw [List.splitOn_cons_eq_if_modifyHead, splitAt, ih]
    cases parts : rest.splitOn separator with
    | nil => exact absurd parts (List.splitOn_ne_nil separator rest)
    | cons part parts =>
      by_cases same : c = separator
      · simp only [same, if_true, beq_self_eq_true]
      · simp only [same, if_false, beq_iff_eq, List.modifyHead_cons]

theorem mem_of_mem_splitAt {separator c : α} {text part : List α}
    (member : part ∈ splitAt separator text) (within : c ∈ part) : c ∈ text := by
  induction text generalizing part with
  | nil =>
    rw [List.mem_singleton.mp member] at within
    exact within
  | cons d rest ih =>
    rw [splitAt] at member
    split at member
    · rw [List.mem_singleton.mp member, List.mem_singleton] at within
      rw [within]
      exact List.mem_cons_self
    · rename_i first parts made
      have inRest {part : List α} (member : part ∈ first :: parts) (within : c ∈ part) :
          c ∈ d :: rest :=
        List.mem_cons_of_mem d (ih (made ▸ member) within)
      split at member
      · rcases List.mem_cons.mp member with rfl | member
        · cases within
        · exact inRest member within
      · rcases List.mem_cons.mp member with rfl | member
        · rcases List.mem_cons.mp within with rfl | within
          · exact List.mem_cons_self
          · exact inRest List.mem_cons_self within
        · exact inRest (List.mem_cons_of_mem first member) within

theorem splitAt_joined {separator : α} {filler first : List α} {parts : List (List α)}
    (apart : separator ∉ filler) (firstFree : separator ∉ first)
    (free : ∀ part ∈ parts, separator ∉ part) :
    splitAt separator ((separator :: filler).intercalate (first :: parts)) =
      first :: parts.map (filler ++ ·) := by
  rw [splitAt_eq_splitOn]
  induction parts generalizing first with
  | nil => rw [List.intercalate_singleton, List.splitOn_eq_singleton firstFree, List.map_nil]
  | cons second parts ih =>
    obtain ⟨secondFree, free⟩ := List.forall_mem_cons.mp free
    -- The induction goes on with the filler as part of the second part.
    have moved : filler ++ (separator :: filler).intercalate (second :: parts) =
        (separator :: filler).intercalate ((filler ++ second) :: parts) := by
      cases parts <;> simp [List.intercalate_cons_cons]
    have filledFree : separator ∉ filler ++ second := by
      simp [apart, secondFree]
    rw [List.intercalate_cons_cons, List.append_assoc, List.cons_append, moved,
      List.splitOn_append_cons_self_of_not_mem firstFree, ih filledFree free, List.map_cons]

end Tabular.Text
