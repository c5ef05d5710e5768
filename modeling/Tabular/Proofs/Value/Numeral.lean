import Tabular.Proofs.Number.Numeral
import Tabular.Proofs.Value.Cell

/-! Which texts are numbers.

Apart from blanks around it, such a text is a signed Infinity, a literal in base sixteen, eight or
two, or a decimal. A sign belongs in front of a decimal or of Infinity, and yet a plus is taken
behind the mark of a base as well.
-/

set_option autoImplicit false

namespace Tabular.Value

open Number Text

/-- The numerals there are meant to be, and what they stand for. -/
inductive NumeralOf : List Char → Float → Prop where
  | infinity : NumeralOf "Infinity".toList Number.infinity
  | plusInfinity : NumeralOf "+Infinity".toList Number.infinity
  | minusInfinity : NumeralOf "-Infinity".toList (-Number.infinity)
  | literal {mark : Char} {base n : Nat} {digits : List Char} : BaseMark mark base →
      LiteralOf base digits n → n < 2 ^ 64 → NumeralOf ('0' :: mark :: digits) (ofNat n)
  | decimal {sign digits : List Char} {negative : Bool} {decimal : Decimal} :
      SignOf sign negative → DecimalOf digits decimal →
      NumeralOf (sign ++ digits) (withSign negative decimal.toFloat)

/-- A literal with a plus between the mark of its base and its digits. -/
inductive PlusLiteralOf : List Char → Float → Prop where
  | plus {mark : Char} {base n : Nat} {digits : List Char} : BaseMark mark base →
      LiteralOf base digits n → n < 2 ^ 64 → PlusLiteralOf ('0' :: mark :: '+' :: digits) (ofNat n)

section Forms

variable {chars digits : List Char} {mark : Char} {base : Nat} {x : Float}

theorem readNumeral_literal (marks : BaseMark mark base) :
    readNumeral ('0' :: mark :: digits) = (readWord base digits).map ofNat := by
  have infinity : "Infinity".toList = 'I' :: "nfinity".toList := rfl
  have plus : "+Infinity".toList = '+' :: "Infinity".toList := rfl
  have minus : "-Infinity".toList = '-' :: "Infinity".toList := rfl
  unfold readNumeral
  have announced : baseOf mark = some base := baseOf_eq_some_iff.mpr marks
  rw [infinity, plus, minus, if_neg (by simp), if_neg (by simp)]
  generalize ofNat = number
  generalize readSigned ('0' :: mark :: digits) = signed
  simp only [announced]

theorem readNumeral_signed (top : chars ≠ "Infinity".toList) (plus : chars ≠ "+Infinity".toList)
    (bottom : chars ≠ "-Infinity".toList)
    (unmarked : ∀ mark digits, chars = '0' :: mark :: digits → baseOf mark = none) :
    readNumeral chars = readSigned chars := by
  have unsigned :
      ¬(decide (chars = "Infinity".toList) || decide (chars = "+Infinity".toList)) = true := by
    rw [Bool.or_eq_true, decide_eq_true_eq, decide_eq_true_eq]
    exact not_or.mpr ⟨top, plus⟩
  unfold readNumeral
  rw [if_neg unsigned, if_neg bottom]
  -- Numbers are kept shut, or the cases would be tried on their bits.
  generalize ofNat = number
  generalize readSigned chars = signed
  split
  · rename_i mark digits
    simp only [unmarked mark digits rfl]
  · rfl

theorem readNumeral_decimal {sign : List Char} {negative : Bool} {decimal : Decimal}
    (isSign : SignOf sign negative) (isDecimal : DecimalOf digits decimal) :
    readNumeral (sign ++ digits) = some (withSign negative decimal.toFloat) := by
  have plain := isDecimal.signedChars isSign
  have other {word : List Char} (member : 'I' ∈ word) : sign ++ digits ≠ word := by
    rintro rfl
    exact absurd (plain 'I' member) (by decide)
  rw [readNumeral_signed (other (by decide)) (other (by decide)) (other (by decide))]
  · exact readSigned_eq_some_iff.mpr ⟨_, _, _, _, rfl, isSign, isDecimal, rfl⟩
  · intro mark digits starts
    rw [Option.eq_none_iff_forall_ne_some]
    exact fun base marks => (baseOf_eq_some_iff.mp marks).ne_decimal isSign isDecimal starts

theorem readNumeral_eq_some_iff :
    readNumeral chars = some x ↔ NumeralOf chars x ∨ PlusLiteralOf chars x := by
  have word {mark : Char} {base : Nat} {digits : List Char} (marks : BaseMark mark base) :
      readNumeral ('0' :: mark :: digits) = some x ↔ ∃ n < wordLimit, ofNat n = x ∧
        (LiteralOf base digits n ∨ ∃ others, digits = '+' :: others ∧ LiteralOf base others n) := by
    rw [readNumeral_literal marks, Option.map_eq_some_iff]
    simp only [readWord_eq_some_iff marks.le]
    exact ⟨fun ⟨n, ⟨bounded, form⟩, same⟩ => ⟨n, bounded, same, form⟩,
      fun ⟨n, bounded, same, form⟩ => ⟨n, ⟨bounded, form⟩, same⟩⟩
  constructor
  · intro read
    by_cases marked : ∃ mark base digits, chars = '0' :: mark :: digits ∧ BaseMark mark base
    · obtain ⟨mark, base, digits, rfl, marks⟩ := marked
      obtain ⟨n, bounded, rfl, literal | ⟨others, rfl, literal⟩⟩ := (word marks).mp read
      · exact .inl (.literal marks literal bounded)
      · exact .inr (.plus marks literal bounded)
    · by_cases top : chars = "Infinity".toList
      · subst top
        cases read
        exact .inl .infinity
      by_cases plus : chars = "+Infinity".toList
      · subst plus
        cases read
        exact .inl .plusInfinity
      by_cases bottom : chars = "-Infinity".toList
      · subst bottom
        cases read
        exact .inl .minusInfinity
      have unmarked : ∀ mark digits, chars = '0' :: mark :: digits → baseOf mark = none := by
        intro mark digits starts
        rw [Option.eq_none_iff_forall_ne_some]
        exact fun base marks => marked ⟨mark, base, digits, starts, baseOf_eq_some_iff.mp marks⟩
      rw [readNumeral_signed top plus bottom unmarked, readSigned_eq_some_iff] at read
      obtain ⟨sign, negative, digits, decimal, rfl, isSign, isDecimal, rfl⟩ := read
      exact .inl (.decimal isSign isDecimal)
  · rintro (numeral | signed)
    · cases numeral with
      | infinity => rfl
      | plusInfinity => rfl
      | minusInfinity => rfl
      | literal marks literal bounded => exact (word marks).mpr ⟨_, bounded, rfl, .inl literal⟩
      | decimal isSign isDecimal => exact readNumeral_decimal isSign isDecimal
    · cases signed with
      | plus marks literal bounded =>
        exact (word marks).mpr ⟨_, bounded, rfl, .inr ⟨_, rfl, literal⟩⟩

theorem NumeralOf.wordChars (numeral : NumeralOf chars x) :
    ∀ c ∈ chars, isWord c = true ∨ c ∈ ['.', '+', '-'] := by
  cases numeral with
  | infinity => decide
  | plusInfinity => decide
  | minusInfinity => decide
  | @literal mark base n digits marks literal =>
    refine List.forall_mem_cons.mpr ⟨by decide, List.forall_mem_cons.mpr ⟨?_, ?_⟩⟩
    · exact .inl marks.isWord
    · exact fun c member => .inl (literal.isWord marks.le c member)
  | decimal isSign isDecimal =>
    have others : ∀ c ∈ ['.', 'e', 'E', '+', '-'], isWord c = true ∨ c ∈ ['.', '+', '-'] := by
      decide
    intro c member
    rcases Bool.or_eq_true_iff.mp (isDecimal.signedChars isSign c member) with digit | other
    · exact .inl (isWord_of_isAsciiDigit digit)
    · exact others c (of_decide_eq_true other)

theorem NumeralOf.unblank (numeral : NumeralOf chars x) : ∀ c ∈ chars, isBlank c = false := by
  have others : ∀ c ∈ ['.', '+', '-'], isBlank c = false := by decide
  intro c member
  rcases numeral.wordChars c member with wordChar | other
  · exact isBlank_eq_false_of_isWord wordChar
  · exact others c other

theorem PlusLiteralOf.not_numeral (signed : PlusLiteralOf chars x) (y : Float) :
    ¬NumeralOf chars y := by
  intro numeral
  cases signed with
  | @plus mark base n digits marks =>
    generalize starts : '0' :: mark :: '+' :: digits = chars at numeral
    cases numeral with
    | infinity => exact absurd (List.cons.inj starts).1 (by decide)
    | plusInfinity => exact absurd (List.cons.inj starts).1 (by decide)
    | minusInfinity => exact absurd (List.cons.inj starts).1 (by decide)
    | literal marks literal =>
      obtain ⟨-, rest⟩ := List.cons.inj starts
      obtain ⟨-, rfl⟩ := List.cons.inj rest
      exact literal.not_plus marks.le
    | decimal isSign isDecimal => exact marks.ne_decimal isSign isDecimal starts.symm

theorem parseNumber_of_numeral {text : String} (numeral : NumeralOf text.toList x) :
    parseNumber text = some x := by
  rw [parseNumber, trimChars_of_unblank numeral.unblank]
  exact readNumeral_eq_some_iff.mpr (.inl numeral)

end Forms

/-- A text is taken as a number exactly when it is a numeral, apart from blanks around it, or a
literal with a plus behind the mark of its base; these are no numerals, and all that is taken
beyond them. No text is taken as NaN. -/
theorem parseNumber_numeral_iff (text : String) :
    let numeral := trimChars text.toList
    (∀ x, parseNumber text = some x ↔ NumeralOf numeral x ∨ PlusLiteralOf numeral x) ∧
    (((∃ x, parseNumber text = some x) ↔ ∃ x, NumeralOf numeral x) ↔
      ¬∃ x, PlusLiteralOf numeral x) ∧
    ∀ x, parseNumber text = some x → x.isNaN = false := by
  intro numeral
  have taken (x : Float) :
      parseNumber text = some x ↔ NumeralOf numeral x ∨ PlusLiteralOf numeral x :=
    readNumeral_eq_some_iff
  refine ⟨taken, ?_, fun x => isNaN_parseNumber⟩
  simp only [taken]
  constructor
  · rintro documented ⟨x, signed⟩
    obtain ⟨y, numeral⟩ := documented.mp ⟨x, .inr signed⟩
    exact signed.not_numeral y numeral
  · intro unsigned
    constructor
    · rintro ⟨x, numeral | signed⟩
      · exact ⟨x, numeral⟩
      · exact absurd ⟨x, signed⟩ unsigned
    · rintro ⟨x, numeral⟩
      exact ⟨x, .inl numeral⟩

/-- In base sixteen a plus is taken in front of the digits. -/
theorem parseNumber_signed_literal :
    parseNumber "0x+10" = some (ofNat 16) ∧ ¬∃ x, NumeralOf (trimChars "0x+10".toList) x := by
  have trimmed : trimChars "0x+10".toList = ['0', 'x', '+', '1', '0'] := by decide
  have literal : LiteralOf 16 ['1', '0'] 16 := ⟨by decide, [1, 0], by decide, by decide, by decide⟩
  have signed : PlusLiteralOf (trimChars "0x+10".toList) (ofNat 16) := by
    rw [trimmed]
    exact .plus (by decide : ('x', 16) ∈ _) literal (by decide)
  refine ⟨readNumeral_eq_some_iff.mpr (.inr signed), ?_⟩
  rintro ⟨x, numeral⟩
  exact signed.not_numeral x numeral

end Tabular.Value
