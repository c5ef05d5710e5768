import Tabular.Proofs.Number.Exact
import Tabular.Proofs.Text.CharClass
import Tabular.Proofs.Text.Trim
import Tabular.Value.Compare

/-! Cells of untyped text.

A cell that is not blank stands for a truth value, a number or its own text. No cell stands for
NaN, and the words of the truth values are no numerals, so a cell is equal to the text that it was
read from unless this is one of these words.
-/

set_option autoImplicit false

namespace Tabular.Value

open Text Number

/-! ## Numerals -/

section Head

variable {c : Char} {rest : List Char}

theorem readDecimal_eq_none (digit : isAsciiDigit c = false) (point : c ≠ '.') :
    readDecimal (c :: rest) = none := by
  have whole : (c :: rest).span isAsciiDigit = ([], c :: rest) := by
    rw [List.span_eq_takeWhile_dropWhile, List.takeWhile_cons_of_neg (by simp [digit]),
      List.dropWhile_cons_of_neg (by simp [digit])]
  unfold readDecimal
  simp only [whole]
  split
  · rename_i starts
    exact absurd (List.cons.inj starts).1 point
  · rfl

theorem readNumeral_eq_none (letter : 97 ≤ c.toLower.toNat ∧ c.toLower.toNat ≤ 122)
    (other : c.toLower ≠ 'i') : readNumeral (c :: rest) = none := by
  have code := code_of_toLower letter
  have apart {mark : Char} (below : mark.toNat < 65) : c ≠ mark := by
    rintro rfl
    omega
  have capital : c ≠ 'I' := by
    rintro rfl
    exact other (by decide)
  have plus : c ≠ '+' := apart (by decide)
  have minus : c ≠ '-' := apart (by decide)
  have digit : isAsciiDigit c = false := by
    rw [Bool.eq_false_iff]
    intro digit
    have := code_of_isAsciiDigit digit
    omega
  have unsigned : splitSign (c :: rest) = (false, c :: rest) := by
    unfold splitSign
    split
    · rename_i starts
      exact absurd (List.cons.inj starts).1 minus
    · rename_i starts
      exact absurd (List.cons.inj starts).1 plus
    · rfl
  have signed : readSigned (c :: rest) = none := by
    simp only [readSigned, unsigned, readDecimal_eq_none digit (apart (by decide)), Option.map_none]
  unfold readNumeral
  rw [if_neg (by simp [capital, plus]), if_neg (by simp [minus])]
  split
  · rename_i starts
    exact absurd (List.cons.inj starts).1 (apart (by decide))
  · exact signed

end Head

theorem isNaN_readSigned {chars : List Char} {x : Float} (read : readSigned chars = some x) :
    x.isNaN = false := by
  simp only [readSigned, Option.map_eq_some_iff] at read
  obtain ⟨decimal, -, rfl⟩ := read
  exact isNaN_withSign _ (isNaN_toFloat decimal)

/-- No numeral reads as NaN. -/
theorem isNaN_readNumeral {chars : List Char} {x : Float} (read : readNumeral chars = some x) :
    x.isNaN = false := by
  have top : infinity.isNaN = false := by decide
  unfold readNumeral at read
  split at read
  · exact Option.some.inj read ▸ top
  · split at read
    · exact Option.some.inj read ▸ isNaN_neg top
    · split at read
      · split at read
        · obtain ⟨whole, -, rfl⟩ := Option.map_eq_some_iff.mp read
          exact isNaN_ofRatio _ _
        · exact isNaN_readSigned read
      · exact isNaN_readSigned read

theorem isNaN_parseNumber {text : String} {x : Float} (read : parseNumber text = some x) :
    x.isNaN = false :=
  isNaN_readNumeral read

/-! ## Truth words -/

def isTruthWord (raw : String) : Bool :=
  sameIgnoringAsciiCase raw "true" || sameIgnoringAsciiCase raw "false"

theorem parseNumber_of_same {raw word : String} {first : Char} {others : List Char}
    (same : sameIgnoringAsciiCase raw word = true)
    (spelled : word.toList.map Char.toLower = first :: others)
    (letters : ∀ c ∈ first :: others, 97 ≤ c.toNat ∧ c.toNat ≤ 122) (other : first ≠ 'i') :
    parseNumber raw = none := by
  have lowered : raw.toList.map Char.toLower = first :: others :=
    (String.ofList_injective (beq_iff_eq.mp same)).trans spelled
  have unblank : ∀ c ∈ raw.toList, isBlank c = false := by
    intro c member
    have letter := letters _ (lowered ▸ List.mem_map_of_mem member)
    rw [← isBlank_toLower]
    exact isBlank_eq_false_of_isWord (isWord_of_code (.inr (.inr (.inr letter))))
  obtain ⟨c, rest, starts, rfl, -⟩ := List.map_eq_cons_iff.mp lowered
  rw [parseNumber, trimChars_of_unblank unblank, starts]
  exact readNumeral_eq_none (letters _ List.mem_cons_self) other

theorem parseNumber_of_isTruthWord {raw : String} (truth : isTruthWord raw = true) :
    parseNumber raw = none := by
  have spelledTrue : "true".toList.map Char.toLower = ['t', 'r', 'u', 'e'] := by decide
  have spelledFalse : "false".toList.map Char.toLower = ['f', 'a', 'l', 's', 'e'] := by decide
  rcases Bool.or_eq_true_iff.mp truth with same | same
  · exact parseNumber_of_same same spelledTrue (by decide) (by decide)
  · exact parseNumber_of_same same spelledFalse (by decide) (by decide)

/-! ## What cells stand for -/

/-- What a cell stands for, with the reason why it does. -/
inductive CellOf (raw : String) : Value → Prop where
  | blank : raw.toList.all isBlank = true → CellOf raw .null
  | truth (value : Bool) : raw.toList.all isBlank = false → isTruthWord raw = true →
      CellOf raw (.boolean value)
  | number (x : Float) : raw.toList.all isBlank = false → isTruthWord raw = false →
      parseNumber raw = some x → CellOf raw (.number x)
  | text : raw.toList.all isBlank = false → isTruthWord raw = false → parseNumber raw = none →
      CellOf raw (.text raw)

theorem cellOf_ofCell (raw : String) : CellOf raw (ofCell raw) := by
  unfold ofCell
  split_ifs with blank yes no
  · exact .blank blank
  · exact .truth true (Bool.eq_false_iff.mpr blank) (by simp [isTruthWord, yes])
  · exact .truth false (Bool.eq_false_iff.mpr blank) (by simp [isTruthWord, no])
  · have plain : isTruthWord raw = false := by simp [isTruthWord, yes, no]
    split
    · rename_i x read
      exact .number x (Bool.eq_false_iff.mpr blank) plain read
    · rename_i unread
      exact .text (Bool.eq_false_iff.mpr blank) plain unread

/-- A cell equals its own text unless the text is blank or the word of a truth value. -/
theorem ofCell_looselyEquals_iff (raw : String) :
    (ofCell raw).looselyEquals (.text raw) = true ↔
      raw.toList.all isBlank = false ∧ isTruthWord raw = false := by
  have cell := cellOf_ofCell raw
  generalize ofCell raw = value at cell ⊢
  cases cell with
  | blank blank => simp [looselyEquals, blank]
  | truth value filled word =>
    -- The word has no numeric view, and the truth value is compared through its own.
    have missing : toNumber (.text raw) = notANumber := by
      rw [toNumber, parseNumber_of_isTruthWord word, Option.getD_none]
    have unequal : looselyEquals (.boolean value) (.text raw) = false := by
      change (toNumber (.boolean value) == toNumber (.text raw)) = false
      rw [missing, beq_notANumber]
    simp [unequal, word]
  | number x filled plain read =>
    simp [looselyEquals, read, beq_self (isNaN_parseNumber read), filled, plain]
  | text filled plain => simp [looselyEquals, filled, plain]

theorem isNaN_toNumber_of_isNull {value : Value} (null : value.isNull = true) :
    value.toNumber.isNaN = true := by
  cases value with
  | null => decide
  | _ => cases null

theorem isNaN_toNumber_ofCell {raw : String}
    (typed : (ofCell raw).asNumber.isSome = true ∨ (ofCell raw).asBoolean.isSome = true) :
    (ofCell raw).toNumber.isNaN = false := by
  have cell := cellOf_ofCell raw
  generalize ofCell raw = value at cell typed ⊢
  cases cell with
  | blank => simp [asNumber, asBoolean] at typed
  | truth value => cases value <;> exact isNaN_ofRatio _ 1
  | number x _ _ read => exact isNaN_parseNumber read
  | text => simp [asNumber, asBoolean] at typed

end Tabular.Value
