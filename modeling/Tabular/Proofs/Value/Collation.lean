import Tabular.Proofs.Text.LowerCase
import Tabular.Proofs.Value.Order

/-! The place of a text next to its lower-cased form.

The two differ in case alone, so the tie-break decides: the greater code point at the first
difference comes first. The first difference is at the first character that is not in lower case.
Most capitals have a lesser code point than their lower case, but not all of them have.
-/

set_option autoImplicit false

namespace Tabular.Value

open Text

/-- The first character that is not in lower case. -/
def firstCapital? (chars : List Char) : Option Char := chars.find? fun c => !decide (IsLower c)

def Rises (capital : Char) : Prop := capital < (lowerChar capital).headD capital

instance (capital : Char) : Decidable (Rises capital) := inferInstanceAs (Decidable (_ < _))

section Capitals

variable {capital : Char} {chars : List Char}

theorem exists_firstCapital? (cased : lowerChars chars ≠ chars) :
    ∃ capital, firstCapital? chars = some capital := by
  rw [Ne, lowerChars_eq_self_iff] at cased
  push Not at cased
  obtain ⟨c, member, upper⟩ := cased
  exact Option.isSome_iff_exists.mp (List.find?_isSome.mpr ⟨c, member, by simpa using upper⟩)

theorem rises_sigma : Rises 'Σ' := by decide

theorem exists_lowerAfter_capital (upper : ¬IsLower capital) (before rest : List Char) :
    ∃ small others, lowerAfter before (capital :: rest) = small :: others ∧ capital ≠ small ∧
      (capital < small ↔ Rises capital) := by
  by_cases sigma : capital = 'Σ'
  · subst sigma
    rw [lowerAfter, if_pos rfl]
    split
    · exact ⟨'ς', _, rfl, by decide, iff_of_true (by decide) rises_sigma⟩
    · exact ⟨'σ', _, rfl, by decide, iff_of_true (by decide) rises_sigma⟩
  · obtain ⟨small, others, lowered, differ⟩ := exists_lowerChar_cons upper
    rw [lowerAfter, if_neg sigma, lowered, Rises, lowered]
    exact ⟨small, _, rfl, differ, Iff.rfl⟩

/-- Up to its first capital a text agrees with its lowered form, and there the two differ. -/
theorem compare_lowerAfter (first : firstCapital? chars = some capital) (before : List Char) :
    compare chars (lowerAfter before chars) = if Rises capital then .lt else .gt := by
  -- What stands before a character matters to a sigma alone, so it may be any text here.
  induction chars generalizing before with
  | nil => cases first
  | cons c chars ih =>
    rw [firstCapital?, List.find?_cons] at first
    by_cases lower : IsLower c
    · simp only [lower, decide_true, Bool.not_true] at first
      have noSigma : c ≠ 'Σ' := fun same => not_isLower_sigma (same ▸ lower)
      have same : compare c c = .eq := Std.ReflCmp.compare_self
      rw [lowerAfter, if_neg noSigma, show lowerChar c = [c] from lower, List.singleton_append,
        List.compare_cons_cons, same, Ordering.eq_then]
      exact ih first (c :: before)
    · simp only [lower, decide_false, Bool.not_false, Option.some.injEq] at first
      subst first
      obtain ⟨small, others, lowered, differ, rises⟩ := exists_lowerAfter_capital lower before chars
      rw [lowered, List.compare_cons_cons]
      split_ifs with below
      · rw [compare_lt_iff_lt.mpr (rises.mpr below)]
        rfl
      · have above : small < c :=
          lt_of_le_of_ne (not_lt.mp fun less => below (rises.mp less)) differ.symm
        rw [compare_gt_iff_gt.mpr above]
        rfl

end Capitals

/-- A text that is not in lower case comes behind its lowered form exactly when its first capital
has a lesser code point than what it is lowered to. -/
theorem collate_lower_lt_iff (text : String) (cased : lower text ≠ text) :
    lower (lower text) = lower text ∧
    (collate (lower text) text = .lt ↔
      ∃ capital, firstCapital? text.toList = some capital ∧ Rises capital) ∧
    (collate (lower text) text = .gt ↔
      ∃ capital, firstCapital? text.toList = some capital ∧ ¬Rises capital) := by
  have again := lower_lower text
  have tie : collate (lower text) text = compare text.toList (lowerChars text.toList) := by
    have same : (lower text).toList = lowerChars text.toList := String.toList_ofList
    have level : compare (lowerChars text.toList) (lowerChars text.toList) = .eq :=
      Std.ReflCmp.compare_self
    rw [collate, same, lowerChars_lowerChars, level, Ordering.eq_then]
  have casedChars : lowerChars text.toList ≠ text.toList := by
    intro same
    exact cased (by rw [lower, same, String.ofList_toList])
  obtain ⟨capital, first⟩ := exists_firstCapital? casedChars
  have order : collate (lower text) text = if Rises capital then .lt else .gt :=
    tie.trans (compare_lowerAfter first [])
  refine ⟨again, ?_⟩
  rw [order, first]
  by_cases rises : Rises capital <;> simp [rises]

/-- The capital sigma decides, whatever stands behind it. -/
theorem collate_lower_lt_iff_sigma :
    lower "οΣŸΣ" ≠ "οΣŸΣ" ∧ collate (lower "οΣŸΣ") "οΣŸΣ" = .lt := by
  have cased : lower "οΣŸΣ" ≠ "οΣŸΣ" := by decide
  exact ⟨cased, (collate_lower_lt_iff "οΣŸΣ" cased).2.1.mpr ⟨'Σ', by decide, by decide⟩⟩

/-- A capital Y with a diaeresis has a greater code point than the small one, and comes first. -/
theorem collate_lower_gt :
    ¬∀ text : String, lower text ≠ text → collate (lower text) text = .lt := by
  intro first
  have less := first "Ÿ" (by decide)
  revert less
  decide

end Tabular.Value
