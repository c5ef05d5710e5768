import Tabular.Proofs.Text.Lowering
import Tabular.Query.Operator

/-! Text that occurs in a cell as it is written.

The text predicates lower both sides whole and then search. So a text is found where a cell displays
it exactly when the same of its capital sigmas end a word there and on their own. A text without
capital sigmas is found wherever it occurs.
-/

set_option autoImplicit false

namespace Tabular

open Text (lowerChars SameWordEnds)

def Value.shown (value : Value) : List Char := value.display.toList

theorem Value.lowerText_eq (value : Value) : value.lowerText = lowerChars value.shown := rfl

namespace Operator

theorem occursIn_iff (sought chars : List Char) :
    occursIn sought chars = true ↔ sought <:+: chars := by
  induction chars with
  | nil => rw [occursIn, List.isEmpty_iff, List.infix_nil]
  | cons c chars ih =>
    rw [occursIn, Bool.or_eq_true, ih, List.isPrefixOf_iff_prefix, List.infix_cons_iff]

variable {cell operand : Value} {before after : List Char} (high : Option Value)

theorem holds_contains (occurs : cell.shown = before ++ operand.shown ++ after)
    (alike : SameWordEnds before operand.shown after) :
    contains.holds cell operand high = true := by
  obtain ⟨front, back, lowered, -⟩ := (Text.lowered_at_iff _ _ _).mpr alike
  refine (occursIn_iff _ _).mpr ⟨front, back, ?_⟩
  rw [Value.lowerText_eq, Value.lowerText_eq, occurs, lowered]

theorem holds_startsWith_iff (starts : cell.shown = operand.shown ++ after) :
    startsWith.holds cell operand high = true ↔ SameWordEnds [] operand.shown after := by
  rw [holds, List.isPrefixOf_iff_prefix, Value.lowerText_eq, Value.lowerText_eq, starts,
    Text.lowered_prefix_iff]

theorem holds_endsWith_iff (ends : cell.shown = before ++ operand.shown) :
    endsWith.holds cell operand high = true ↔ SameWordEnds before operand.shown [] := by
  rw [holds, List.isSuffixOf_iff_suffix, Value.lowerText_eq, Value.lowerText_eq, ends,
    Text.lowered_suffix_iff]

/-- A text that a cell displays is found there as it is written when the same of its capital sigmas
end a word in the cell and on their own, and only then it stands lowered where it occurs. So the
predicates for the start and the end of a cell miss a text in no other case, and none of the
three misses a text without capital sigmas. -/
theorem literal_text_found_iff (cell operand : Value) (high : Option Value) :
    (∀ before after, cell.shown = before ++ operand.shown ++ after →
      (SameWordEnds before operand.shown after → contains.holds cell operand high = true) ∧
      ((∃ front back, cell.lowerText = front ++ operand.lowerText ++ back ∧
        front.length = (lowerChars before).length) ↔ SameWordEnds before operand.shown after)) ∧
    (∀ after, cell.shown = operand.shown ++ after →
      (startsWith.holds cell operand high = true ↔ SameWordEnds [] operand.shown after)) ∧
    (∀ before, cell.shown = before ++ operand.shown →
      (endsWith.holds cell operand high = true ↔ SameWordEnds before operand.shown [])) ∧
    ('Σ' ∉ operand.shown →
      (operand.shown <:+: cell.shown → contains.holds cell operand high = true) ∧
      (operand.shown <+: cell.shown → startsWith.holds cell operand high = true) ∧
      (operand.shown <:+ cell.shown → endsWith.holds cell operand high = true)) := by
  refine ⟨fun before after occurs => ⟨holds_contains high occurs, ?_⟩,
    fun after starts => holds_startsWith_iff high starts,
    fun before ends => holds_endsWith_iff high ends, fun absent => ⟨?_, ?_, ?_⟩⟩
  · rw [Value.lowerText_eq, Value.lowerText_eq, occurs]
    exact Text.lowered_at_iff before operand.shown after
  · rintro ⟨before, after, occurs⟩
    exact holds_contains high occurs.symm (Text.sameWordEnds_of_no_sigma before after absent)
  · rintro ⟨after, starts⟩
    exact (holds_startsWith_iff high starts.symm).mpr
      (Text.sameWordEnds_of_no_sigma [] after absent)
  · rintro ⟨before, ends⟩
    exact (holds_endsWith_iff high ends.symm).mpr (Text.sameWordEnds_of_no_sigma before [] absent)

/-- A word that ends in a sigma is found before a blank, and a dotted capital at the end of a
cell. -/
theorem literal_text_found_words :
    let cell : Value := .text "ΟΔΟΣ İ"
    let word : Value := .text "ΟΔΟΣ"
    let letter : Value := .text "İ"
    cell.shown = word.shown ++ [' ', 'İ'] ∧ SameWordEnds [] word.shown [' ', 'İ'] ∧
    startsWith.holds cell word none = true ∧ contains.holds cell word none = true ∧
    'Σ' ∉ letter.shown ∧ letter.shown <:+ cell.shown ∧ endsWith.holds cell letter none = true := by
  intro cell word letter
  have starts : cell.shown = word.shown ++ [' ', 'İ'] := by decide
  have alike : SameWordEnds [] word.shown [' ', 'İ'] := by decide
  have absent : 'Σ' ∉ letter.shown := by decide
  have ends : letter.shown <:+ cell.shown := by decide
  obtain ⟨anywhere, start, -⟩ := literal_text_found_iff cell word none
  obtain ⟨-, -, -, plain⟩ := literal_text_found_iff cell letter none
  exact ⟨starts, alike, (start _ starts).mpr alike, (anywhere [] _ starts).1 alike, absent, ends,
    (plain absent).2.2 ends⟩

/-- A sigma that ends a word on its own and not in the cell, and one that does so the other way
round. -/
theorem literal_sigma_not_found :
    let inside : Value := .text "ΟΣΑ"
    let word : Value := .text "ΟΣ"
    let sigma : Value := .text "Σ"
    word.shown <+: inside.shown ∧ startsWith.holds inside word none = false ∧
    word.shown <:+: inside.shown ∧ contains.holds inside word none = false ∧
    sigma.shown <:+ word.shown ∧ endsWith.holds word sigma none = false := by
  decide

end Operator

end Tabular
