import Tabular.Text.Blank
import Tabular.Text.Word

/-! How the classes of characters lie to each other.

No word character is blank, and the ASCII letters, the digits and the underscore are word
characters. Classes of wide scripts are compared range by range.
-/

set_option autoImplicit false

namespace Tabular.Text

-- Going through every character there is would decide such a statement as well, and never end.
scoped instance (priority := 2000) decidableAlong (text : List Char) (accepts : Char → Prop)
    [DecidablePred accepts] : Decidable (∀ c ∈ text, accepts c) :=
  List.decidableBAll accepts text

theorem exists_range_of_inRanges {ranges : List (Nat × Nat)} {code : Nat}
    (within : inRanges ranges code = true) :
    ∃ range ∈ ranges, range.1 ≤ code ∧ code ≤ range.2 := by
  induction ranges with
  | nil => cases within
  | cons range ranges ih =>
    obtain ⟨first, last⟩ := range
    simp only [inRanges] at within
    split at within
    · cases within
    · split at within
      · exact ⟨(first, last), List.mem_cons_self, by omega, by omega⟩
      · obtain ⟨other, member, bounds⟩ := ih within
        exact ⟨other, List.mem_cons_of_mem _ member, bounds⟩

theorem inRanges_eq_false_of_apart {ranges others : List (Nat × Nat)}
    (apart : ∀ range ∈ ranges, ∀ other ∈ others, range.2 < other.1 ∨ other.2 < range.1)
    {code : Nat} (within : inRanges ranges code = true) : inRanges others code = false := by
  rw [← Bool.not_eq_true]
  intro both
  obtain ⟨range, member, low, high⟩ := exists_range_of_inRanges within
  obtain ⟨other, otherMember, otherLow, otherHigh⟩ := exists_range_of_inRanges both
  have := apart range member other otherMember
  omega

-- Every pair of ranges is compared, which goes deeper than the default bound allows.
set_option maxRecDepth 20000 in
theorem wordRanges_apart_blankRanges :
    ∀ range ∈ wordRanges, ∀ other ∈ blankRanges, range.2 < other.1 ∨ other.2 < range.1 := by
  decide

theorem isBlank_eq_false_of_isWord {c : Char} (wordChar : isWord c = true) : isBlank c = false :=
  inRanges_eq_false_of_apart wordRanges_apart_blankRanges wordChar

-- As deep as with the word characters, since there are almost as many ranges of digits.
set_option maxRecDepth 20000 in
theorem digitRanges_apart_blankRanges :
    ∀ range ∈ digitRanges, ∀ other ∈ blankRanges, range.2 < other.1 ∨ other.2 < range.1 := by
  decide

theorem isBlank_eq_false_of_isDigit {c : Char} (digit : isDigit c = true) : isBlank c = false :=
  inRanges_eq_false_of_apart digitRanges_apart_blankRanges digit

theorem code_of_isAsciiDigit {c : Char} (digit : isAsciiDigit c = true) :
    48 ≤ c.toNat ∧ c.toNat ≤ 57 :=
  (Bool.and_eq_true_iff.mp digit).imp of_decide_eq_true of_decide_eq_true

theorem isDigit_of_isAsciiDigit {c : Char} (digit : isAsciiDigit c = true) : isDigit c = true := by
  obtain ⟨low, high⟩ := code_of_isAsciiDigit digit
  unfold isDigit digitRanges inRanges
  rw [if_neg (Nat.not_lt.mpr low), if_pos high]

def isNameChar (c : Char) : Bool := c.isAlphanum || c == '_'

theorem code_of_isNameChar {c : Char} (plain : isNameChar c = true) :
    (48 ≤ c.toNat ∧ c.toNat ≤ 57) ∨ (65 ≤ c.toNat ∧ c.toNat ≤ 90) ∨ c.toNat = 95 ∨
      (97 ≤ c.toNat ∧ c.toNat ≤ 122) := by
  rcases Bool.or_eq_true_iff.mp plain with alphanumeric | underscore
  · rcases Bool.or_eq_true_iff.mp alphanumeric with letter | digit
    · rcases Bool.or_eq_true_iff.mp letter with capital | small
      · exact .inr (.inl (of_decide_eq_true capital))
      · obtain ⟨low, high⟩ := Bool.and_eq_true_iff.mp small
        exact .inr (.inr (.inr ⟨of_decide_eq_true low, of_decide_eq_true high⟩))
    · obtain ⟨low, high⟩ := Bool.and_eq_true_iff.mp digit
      exact .inl ⟨of_decide_eq_true low, of_decide_eq_true high⟩
  · rw [beq_iff_eq.mp underscore]
    exact .inr (.inr (.inl rfl))

theorem isWord_of_code {c : Char}
    (code : (48 ≤ c.toNat ∧ c.toNat ≤ 57) ∨ (65 ≤ c.toNat ∧ c.toNat ≤ 90) ∨ c.toNat = 95 ∨
      (97 ≤ c.toNat ∧ c.toNat ≤ 122)) : isWord c = true := by
  obtain ⟨others, ranges⟩ : ∃ others, wordRanges =
      (0x30, 0x39) :: (0x41, 0x5A) :: (0x5F, 0x5F) :: (0x61, 0x7A) :: others := ⟨_, rfl⟩
  simp only [isWord, ranges, inRanges]
  grind

theorem isWord_of_isAsciiDigit {c : Char} (digit : isAsciiDigit c = true) : isWord c = true :=
  isWord_of_code (.inl (code_of_isAsciiDigit digit))

theorem isWord_of_isNameChar {c : Char} (plain : isNameChar c = true) : isWord c = true :=
  isWord_of_code (code_of_isNameChar plain)

theorem toLower_of_capital {c : Char} (capital : 65 ≤ c.toNat ∧ c.toNat ≤ 90) :
    c.toLower.toNat = c.toNat + 32 := by
  have sum : (c.val + ('a'.val - 'A'.val)).toNat = c.toNat + 32 := by
    rw [UInt32.toNat_add]
    exact Nat.mod_eq_of_lt
      (Nat.lt_of_le_of_lt (Nat.add_le_add_right capital.2 32) (by decide))
  have bounds : c.val ≥ 'A'.val ∧ c.val ≤ 'Z'.val := capital
  unfold Char.toLower
  rw [dif_pos bounds]
  exact sum

theorem toLower_of_other {c : Char} (other : ¬(65 ≤ c.toNat ∧ c.toNat ≤ 90)) : c.toLower = c :=
  dif_neg other

theorem code_of_toLower {c : Char} (letter : 97 ≤ c.toLower.toNat ∧ c.toLower.toNat ≤ 122) :
    (65 ≤ c.toNat ∧ c.toNat ≤ 90) ∨ (97 ≤ c.toNat ∧ c.toNat ≤ 122) := by
  by_cases capital : 65 ≤ c.toNat ∧ c.toNat ≤ 90
  · exact .inl capital
  · exact .inr (toLower_of_other capital ▸ letter)

theorem toLower_eq_iff {c wide : Char} (beyond : 128 ≤ wide.toNat) :
    c.toLower = wide ↔ c = wide := by
  by_cases capital : 65 ≤ c.toNat ∧ c.toNat ≤ 90
  · have lower := toLower_of_capital capital
    constructor <;>
    · intro same
      rw [← same] at beyond
      omega
  · rw [toLower_of_other capital]

theorem isBlank_toLower (c : Char) : isBlank c.toLower = isBlank c := by
  by_cases capital : 65 ≤ c.toNat ∧ c.toNat ≤ 90
  · have lower := toLower_of_capital capital
    have small : isWord c.toLower = true := isWord_of_code (.inr (.inr (.inr (by omega))))
    rw [isBlank_eq_false_of_isWord small,
      isBlank_eq_false_of_isWord (isWord_of_code (.inr (.inl capital)))]
  · rw [toLower_of_other capital]

end Tabular.Text
