import Tabular.Text.Case

/-! Lower-casing of a part of a text.

What a part of a text is lowered to depends on the text around it only through its capital sigmas:
each becomes a final sigma where it ends a word. So a part is lowered as it would be on its own
exactly when the same of its sigmas end a word.
-/

set_option autoImplicit false

namespace Tabular.Text

/-- Whether a capital sigma between two texts ends a word. The first is listed from its end. -/
def endsWord (before rest : List Char) : Bool := meetsCased before && !meetsCased rest

/-- Which of the capital sigmas of a text end a word, between the texts before and after it. The
text before is listed from its end. -/
def wordEnds (before : List Char) : (chars after : List Char) → List Bool
  | [], _ => []
  | c :: rest, after =>
    if c = 'Σ' then endsWord before (rest ++ after) :: wordEnds (c :: before) rest after
    else wordEnds (c :: before) rest after

def lowerBetween (before : List Char) : (chars after : List Char) → List Char
  | [], _ => []
  | c :: rest, after =>
    (if c = 'Σ' then [if endsWord before (rest ++ after) then 'ς' else 'σ'] else lowerChar c) ++
      lowerBetween (c :: before) rest after

variable (before others chars after rest : List Char)

theorem lowerAfter_append :
    lowerAfter before (chars ++ after) =
      lowerBetween before chars after ++ lowerAfter (chars.reverse ++ before) after := by
  induction chars generalizing before with
  | nil => rfl
  | cons c chars ih =>
    rw [List.cons_append, lowerAfter, lowerBetween, ih, List.reverse_cons, List.append_assoc,
      List.append_assoc, List.singleton_append]
    rfl

theorem lowerAfter_eq_lowerBetween : lowerAfter before chars = lowerBetween before chars [] := by
  have whole := lowerAfter_append before chars []
  rwa [List.append_nil, lowerAfter, List.append_nil] at whole

theorem length_lowerBetween :
    (lowerBetween before chars after).length = (lowerBetween others chars rest).length := by
  induction chars generalizing before others with
  | nil => rfl
  | cons c chars ih =>
    rw [lowerBetween, lowerBetween, List.length_append, List.length_append, ih (c :: before)]
    split <;> rfl

theorem wordEnds_eq_nil {chars : List Char} (absent : 'Σ' ∉ chars) :
    wordEnds before chars after = [] := by
  induction chars generalizing before with
  | nil => rfl
  | cons c chars ih =>
    rw [wordEnds, if_neg (List.ne_of_not_mem_cons absent).symm,
      ih _ (List.not_mem_of_not_mem_cons absent)]

theorem lowerBetween_eq_iff :
    lowerBetween before chars after = lowerBetween others chars rest ↔
      wordEnds before chars after = wordEnds others chars rest := by
  induction chars generalizing before others with
  | nil => exact iff_of_true rfl rfl
  | cons c chars ih =>
    rw [lowerBetween, lowerBetween, wordEnds, wordEnds]
    by_cases sigma : c = 'Σ'
    · have forms : ((if endsWord before (chars ++ after) then 'ς' else 'σ') =
          if endsWord others (chars ++ rest) then 'ς' else 'σ') ↔
          endsWord before (chars ++ after) = endsWord others (chars ++ rest) := by
        cases endsWord before (chars ++ after) <;> cases endsWord others (chars ++ rest) <;> decide
      simp only [sigma, if_true, List.singleton_append, List.cons.injEq, forms]
      rw [← sigma, ih]
    · simp only [sigma, if_false]
      rw [List.append_cancel_left_eq, ih]

/-! ## A text inside another -/

def SameWordEnds : Prop := wordEnds before.reverse chars after = wordEnds [] chars []

instance : Decidable (SameWordEnds before chars after) := inferInstanceAs (Decidable (_ = _))

theorem sameWordEnds_iff :
    SameWordEnds before chars after ↔
      lowerBetween before.reverse chars after = lowerChars chars := by
  rw [SameWordEnds, lowerChars, lowerAfter_eq_lowerBetween, lowerBetween_eq_iff]

theorem sameWordEnds_of_no_sigma {chars : List Char} (absent : 'Σ' ∉ chars) :
    SameWordEnds before chars after := by
  rw [SameWordEnds, wordEnds_eq_nil _ _ absent, wordEnds_eq_nil _ _ absent]

theorem length_lowerBetween_eq :
    (lowerBetween before chars after).length = (lowerChars chars).length := by
  rw [lowerChars, lowerAfter_eq_lowerBetween]
  exact length_lowerBetween before [] chars after []

theorem lowerChars_append :
    lowerChars (before ++ chars ++ after) =
      lowerBetween [] before (chars ++ after) ++
        (lowerBetween before.reverse chars after ++
          lowerAfter (chars.reverse ++ before.reverse) after) := by
  rw [lowerChars, List.append_assoc, lowerAfter_append, lowerAfter_append, List.append_nil]

/-- The lowered form of a text stands at its place in that of another exactly when the same of its
sigmas end a word in both. -/
theorem lowered_at_iff :
    (∃ front back, lowerChars (before ++ chars ++ after) = front ++ lowerChars chars ++ back ∧
      front.length = (lowerChars before).length) ↔ SameWordEnds before chars after := by
  have place := length_lowerBetween_eq [] before (chars ++ after)
  rw [sameWordEnds_iff, lowerChars_append]
  constructor
  · rintro ⟨front, back, lowered, length⟩
    rw [List.append_assoc] at lowered
    have rests := (List.append_inj lowered (place.trans length.symm)).2
    exact (List.append_inj rests (length_lowerBetween_eq _ chars after)).1
  · intro alike
    exact ⟨_, _, by rw [alike, List.append_assoc], place⟩

theorem lowered_prefix_iff :
    lowerChars chars <+: lowerChars (chars ++ after) ↔ SameWordEnds [] chars after := by
  rw [← lowered_at_iff, List.nil_append]
  constructor
  · rintro ⟨back, lowered⟩
    exact ⟨[], back, lowered.symm, rfl⟩
  · rintro ⟨front, back, lowered, length⟩
    obtain rfl := List.eq_nil_of_length_eq_zero length
    exact ⟨back, lowered.symm⟩

theorem lowered_suffix_iff :
    lowerChars chars <:+ lowerChars (before ++ chars) ↔ SameWordEnds before chars [] := by
  have total : (lowerChars (before ++ chars)).length =
      (lowerChars before).length + (lowerChars chars).length := by
    have cut := congrArg List.length (lowerChars_append before chars [])
    rw [List.length_append, List.length_append, length_lowerBetween_eq, length_lowerBetween_eq,
      lowerAfter, List.append_nil] at cut
    exact cut
  rw [← lowered_at_iff, List.append_nil]
  constructor
  · rintro ⟨front, lowered⟩
    refine ⟨front, [], by rw [lowered, List.append_nil], ?_⟩
    rw [← lowered, List.length_append] at total
    exact Nat.add_right_cancel total
  · rintro ⟨front, back, lowered, length⟩
    rw [lowered, List.length_append, List.length_append, length, Nat.add_eq_left] at total
    obtain rfl := List.eq_nil_of_length_eq_zero total
    exact ⟨front, by rw [lowered, List.append_nil]⟩

end Tabular.Text
