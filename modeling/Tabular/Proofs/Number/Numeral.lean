import Mathlib.Data.Nat.Digits.Lemmas
import Tabular.Number.Numeral
import Tabular.Proofs.Text.Reader

/-! Numerals: which texts they are, and what they stand for.

A decimal is a mantissa with at most one point, behind an optional sign and before an optional
exponent, and a literal is a run of digits of its base. The readers take exactly these texts; the
reader of words of 64 bits also takes a plus before the digits.
-/

set_option autoImplicit false

namespace Tabular.Number

open Text

/-! ## Decimals -/

structure IsDigits (digits : List Char) : Prop where
  nonempty : digits ≠ []
  all : ∀ c ∈ digits, isAsciiDigit c = true

inductive SignOf : List Char → Bool → Prop where
  | none : SignOf [] false
  | plus : SignOf ['+'] false
  | minus : SignOf ['-'] true

inductive ExponentOf : List Char → Int → Prop where
  | none : ExponentOf [] 0
  | marked {mark : Char} {sign digits : List Char} {negative : Bool} : mark = 'e' ∨ mark = 'E' →
      SignOf sign negative → IsDigits digits →
      ExponentOf (mark :: (sign ++ digits))
        (if negative then -(digitsValue digits 0 : Int) else digitsValue digits 0)

/-- Digits with at most one point before, among or behind them, and then an exponent. -/
inductive DecimalOf : List Char → Decimal → Prop where
  | whole {digits tail : List Char} {exponent : Int} : IsDigits digits → ExponentOf tail exponent →
      DecimalOf (digits ++ tail) ⟨digitsValue digits 0, exponent⟩
  | pointed {whole fraction tail : List Char} {exponent : Int} : IsDigits (whole ++ fraction) →
      ExponentOf tail exponent →
      DecimalOf (whole ++ '.' :: (fraction ++ tail))
        ⟨digitsValue (whole ++ fraction) 0, exponent - fraction.length⟩

def isSignChar (c : Char) : Bool := c == '+' || c == '-'

section Signs

variable {sign digits tail : List Char} {negative : Bool}

theorem IsDigits.stops_sign (isDigits : IsDigits digits) (rest : List Char) :
    Stops isSignChar (digits ++ rest) := by
  obtain ⟨c, others, rfl⟩ := List.exists_cons_of_ne_nil isDigits.nonempty
  refine stops_cons ?_ _
  have code := code_of_isAsciiDigit (isDigits.all c List.mem_cons_self)
  have apart (mark : Char) (below : mark.toNat < 48) : c ≠ mark := by
    rintro rfl
    omega
  simp [isSignChar, apart '+' (by decide), apart '-' (by decide)]

theorem splitSign_append (isSign : SignOf sign negative) {rest : List Char}
    (stops : Stops isSignChar rest) : splitSign (sign ++ rest) = (negative, rest) := by
  cases isSign with
  | plus => rfl
  | minus => rfl
  | none =>
    cases rest with
    | nil => rfl
    | cons c rest =>
      have unsigned := stops.head
      simp only [isSignChar, Bool.or_eq_false_iff, beq_eq_false_iff_ne] at unsigned
      simp [splitSign, unsigned]

theorem exists_sign (chars : List Char) :
    ∃ sign, chars = sign ++ (splitSign chars).2 ∧ SignOf sign (splitSign chars).1 := by
  unfold splitSign
  split
  · exact ⟨['-'], rfl, .minus⟩
  · exact ⟨['+'], rfl, .plus⟩
  · exact ⟨[], rfl, .none⟩

theorem readExponent_eq_some_iff {chars : List Char} {exponent : Int} :
    readExponent chars = some exponent ↔
      ∃ sign digits negative, chars = sign ++ digits ∧ SignOf sign negative ∧ IsDigits digits ∧
        exponent = if negative then -(digitsValue digits 0 : Int) else digitsValue digits 0 := by
  constructor
  · intro read
    obtain ⟨sign, split, isSign⟩ := exists_sign chars
    simp only [readExponent] at read
    split at read
    · cases read
    · rename_i digits
      simp only [Bool.or_eq_true, List.isEmpty_iff, Bool.not_eq_true', not_or,
        Bool.not_eq_false, List.all_eq_true] at digits
      exact ⟨sign, _, _, split, isSign, ⟨digits.1, digits.2⟩, (Option.some.inj read).symm⟩
  · rintro ⟨sign, digits, negative, rfl, isSign, isDigits, rfl⟩
    have stops := isDigits.stops_sign []
    rw [List.append_nil] at stops
    have all : digits.all isAsciiDigit = true := List.all_eq_true.mpr isDigits.all
    simp [readExponent, splitSign_append isSign stops, isDigits.nonempty, all]

end Signs

section Decimals

def readTail : List Char → Option Int
  | [] => some 0
  | mark :: rest => if mark = 'e' || mark = 'E' then readExponent rest else none

variable {whole fraction tail : List Char}

theorem readTail_eq_some_iff {exponent : Int} :
    readTail tail = some exponent ↔ ExponentOf tail exponent := by
  cases tail with
  | nil =>
    constructor
    · intro read
      cases read
      exact .none
    · intro isExponent
      cases isExponent
      rfl
  | cons mark rest =>
    simp only [readTail, Option.ite_none_right_eq_some, Bool.or_eq_true, decide_eq_true_eq,
      readExponent_eq_some_iff]
    constructor
    · rintro ⟨isMark, sign, digits, negative, rfl, isSign, isDigits, rfl⟩
      exact .marked isMark isSign isDigits
    · intro isExponent
      cases isExponent with
      | marked isMark isSign isDigits =>
        exact ⟨isMark, _, _, _, rfl, isSign, isDigits, rfl⟩

theorem ExponentOf.stops {exponent : Int} (isExponent : ExponentOf tail exponent) :
    Stops isAsciiDigit tail ∧ tail.head? ≠ some '.' := by
  cases isExponent with
  | none => exact ⟨stops_nil _, by simp⟩
  | marked isMark =>
    rcases isMark with rfl | rfl
    · exact ⟨stops_cons (by decide) _, by simp⟩
    · exact ⟨stops_cons (by decide) _, by simp⟩

theorem readDecimal_whole (digits : ∀ c ∈ whole, isAsciiDigit c = true)
    (stops : Stops isAsciiDigit tail) (unpointed : tail.head? ≠ some '.') :
    readDecimal (whole ++ tail) =
      if whole.isEmpty then none
      else (readTail tail).map fun exponent => ⟨digitsValue whole 0, exponent⟩ := by
  unfold readDecimal
  simp only [List.span_eq_takeWhile_dropWhile, takeWhile_run digits stops,
    dropWhile_run digits stops]
  split
  · rename_i found
    simp at unpointed
  · cases tail <;> simp [readTail]

theorem readDecimal_pointed (digits : ∀ c ∈ whole ++ fraction, isAsciiDigit c = true)
    (stops : Stops isAsciiDigit tail) :
    readDecimal (whole ++ '.' :: (fraction ++ tail)) =
      if (whole ++ fraction).isEmpty then none
      else (readTail tail).map fun exponent =>
        ⟨digitsValue (whole ++ fraction) 0, exponent - fraction.length⟩ := by
  obtain ⟨before, behind⟩ := List.forall_mem_append.mp digits
  have point : Stops isAsciiDigit ('.' :: (fraction ++ tail)) := stops_cons (by decide) _
  unfold readDecimal
  simp only [List.span_eq_takeWhile_dropWhile, takeWhile_run before point,
    dropWhile_run before point, takeWhile_run behind stops, dropWhile_run behind stops]
  cases tail <;> simp [readTail]

theorem readDecimal_eq_some_iff {chars : List Char} {decimal : Decimal} :
    readDecimal chars = some decimal ↔ DecimalOf chars decimal := by
  constructor
  · intro read
    -- The digits in front end at a point, or else the mantissa ends with them.
    obtain ⟨whole, tail, rfl, before, stops⟩ := exists_run isAsciiDigit chars
    by_cases pointed : tail.head? = some '.'
    · obtain ⟨behind, rfl⟩ := List.head?_eq_some_iff.mp pointed
      obtain ⟨fraction, tail, rfl, behind, stops⟩ := exists_run isAsciiDigit behind
      have digits : ∀ c ∈ whole ++ fraction, isAsciiDigit c = true :=
        List.forall_mem_append.mpr ⟨before, behind⟩
      rw [readDecimal_pointed digits stops, Option.ite_none_left_eq_some, List.isEmpty_iff,
        Option.map_eq_some_iff] at read
      obtain ⟨nonempty, exponent, tailRead, rfl⟩ := read
      exact .pointed ⟨nonempty, digits⟩ (readTail_eq_some_iff.mp tailRead)
    · rw [readDecimal_whole before stops pointed, Option.ite_none_left_eq_some, List.isEmpty_iff,
        Option.map_eq_some_iff] at read
      obtain ⟨nonempty, exponent, tailRead, rfl⟩ := read
      exact .whole ⟨nonempty, before⟩ (readTail_eq_some_iff.mp tailRead)
  · intro isDecimal
    cases isDecimal with
    | whole isDigits isExponent =>
      obtain ⟨stops, unpointed⟩ := isExponent.stops
      rw [readDecimal_whole isDigits.all stops unpointed, readTail_eq_some_iff.mpr isExponent]
      simp [isDigits.nonempty]
    | pointed isDigits isExponent =>
      rw [readDecimal_pointed isDigits.all isExponent.stops.1,
        readTail_eq_some_iff.mpr isExponent, if_neg (by simp [isDigits.nonempty])]
      rfl

theorem DecimalOf.stops_sign {chars : List Char} {decimal : Decimal}
    (isDecimal : DecimalOf chars decimal) : Stops isSignChar chars := by
  cases isDecimal with
  | whole isDigits => exact isDigits.stops_sign _
  | @pointed whole fraction _ _ isDigits =>
    cases whole with
    | nil => exact stops_cons (by decide) _
    | cons c whole =>
      have first : IsDigits [c] :=
        ⟨List.cons_ne_nil c [], List.forall_mem_singleton.mpr (isDigits.all c List.mem_cons_self)⟩
      exact first.stops_sign _

def isDecimalChar (c : Char) : Bool := isAsciiDigit c || c ∈ ['.', 'e', 'E', '+', '-']

theorem IsDigits.decimalChars {digits : List Char} (isDigits : IsDigits digits) :
    ∀ c ∈ digits, isDecimalChar c = true := fun c member => by
  rw [isDecimalChar, isDigits.all c member, Bool.true_or]

theorem SignOf.decimalChars {sign : List Char} {negative : Bool} (isSign : SignOf sign negative) :
    ∀ c ∈ sign, isDecimalChar c = true := by
  cases isSign <;> decide

theorem ExponentOf.decimalChars {exponent : Int} (isExponent : ExponentOf tail exponent) :
    ∀ c ∈ tail, isDecimalChar c = true := by
  cases isExponent with
  | none => exact List.forall_mem_nil _
  | marked isMark isSign isDigits =>
    refine List.forall_mem_cons.mpr ⟨?_, ?_⟩
    · rcases isMark with rfl | rfl <;> decide
    · exact List.forall_mem_append.mpr ⟨isSign.decimalChars, isDigits.decimalChars⟩

theorem DecimalOf.decimalChars {chars : List Char} {decimal : Decimal}
    (isDecimal : DecimalOf chars decimal) : ∀ c ∈ chars, isDecimalChar c = true := by
  cases isDecimal with
  | whole isDigits isExponent =>
    exact List.forall_mem_append.mpr ⟨isDigits.decimalChars, isExponent.decimalChars⟩
  | pointed isDigits isExponent =>
    obtain ⟨before, behind⟩ := List.forall_mem_append.mp isDigits.decimalChars
    refine List.forall_mem_append.mpr ⟨before, List.forall_mem_cons.mpr ⟨by decide, ?_⟩⟩
    exact List.forall_mem_append.mpr ⟨behind, isExponent.decimalChars⟩

theorem DecimalOf.signedChars {sign chars : List Char} {negative : Bool} {decimal : Decimal}
    (isDecimal : DecimalOf chars decimal) (isSign : SignOf sign negative) :
    ∀ c ∈ sign ++ chars, isDecimalChar c = true :=
  List.forall_mem_append.mpr ⟨isSign.decimalChars, isDecimal.decimalChars⟩

theorem readSigned_eq_some_iff {chars : List Char} {x : Float} :
    readSigned chars = some x ↔
      ∃ sign negative digits decimal, chars = sign ++ digits ∧ SignOf sign negative ∧
        DecimalOf digits decimal ∧ x = withSign negative decimal.toFloat := by
  constructor
  · intro read
    obtain ⟨sign, split, isSign⟩ := exists_sign chars
    obtain ⟨decimal, decimalRead, rfl⟩ := Option.map_eq_some_iff.mp read
    exact ⟨sign, _, _, decimal, split, isSign, readDecimal_eq_some_iff.mp decimalRead, rfl⟩
  · rintro ⟨sign, negative, digits, decimal, rfl, isSign, isDecimal, rfl⟩
    simp only [readSigned, splitSign_append isSign isDecimal.stops_sign,
      readDecimal_eq_some_iff.mpr isDecimal, Option.map_some]

end Decimals

/-! ## Literals -/

def baseMarks : List (Char × Nat) :=
  [('x', 16), ('X', 16), ('o', 8), ('O', 8), ('b', 2), ('B', 2)]

def BaseMark (mark : Char) (base : Nat) : Prop := (mark, base) ∈ baseMarks

/-- One digit of the base or more, in any case of the letters among them, and their value. -/
structure LiteralOf (base : Nat) (digits : List Char) (n : Nat) : Prop where
  nonempty : digits ≠ []
  spelled : ∃ values : List Nat, (∀ value ∈ values, value < base) ∧
    digits.map Char.toLower = values.map Nat.digitChar ∧ n = Nat.ofDigits base values.reverse

theorem baseOf_eq_some_iff {mark : Char} {base : Nat} :
    baseOf mark = some base ↔ BaseMark mark base := by
  unfold baseOf BaseMark baseMarks
  simp only [Bool.or_eq_true, decide_eq_true_eq]
  split_ifs <;> grind

section Literals

variable {base : Nat}

theorem BaseMark.le {mark : Char} (marks : BaseMark mark base) : base ≤ 16 := by
  have all : ∀ pair ∈ baseMarks, pair.2 ≤ 16 := by decide
  exact all (mark, base) marks

theorem BaseMark.not_decimalChar {mark : Char} (marks : BaseMark mark base) :
    isDecimalChar mark = false := by
  have all : ∀ pair ∈ baseMarks, isDecimalChar pair.1 = false := by decide
  exact all (mark, base) marks

theorem BaseMark.ne_decimal {mark : Char} {sign chars rest : List Char} {negative : Bool}
    {decimal : Decimal} (marks : BaseMark mark base) (isSign : SignOf sign negative)
    (isDecimal : DecimalOf chars decimal) : sign ++ chars ≠ '0' :: mark :: rest := by
  intro starts
  have plain := isDecimal.signedChars isSign
  rw [starts] at plain
  have foreign := marks.not_decimalChar
  rw [plain mark (by simp)] at foreign
  cases foreign

theorem BaseMark.isWord {mark : Char} (marks : BaseMark mark base) : isWord mark = true := by
  have all : ∀ pair ∈ baseMarks, Text.isWord pair.1 = true := by decide
  exact all (mark, base) marks

theorem code_digitChar {digit : Nat} (small : digit < 16) :
    (Nat.digitChar digit).toNat = if digit < 10 then digit + 48 else digit + 87 := by
  have codes : ∀ digit < 16,
      (Nat.digitChar digit).toNat = if digit < 10 then digit + 48 else digit + 87 := by decide
  exact codes digit small

theorem code_toLower (c : Char) :
    c.toLower.toNat = if 65 ≤ c.toNat ∧ c.toNat ≤ 90 then c.toNat + 32 else c.toNat := by
  split
  · exact toLower_of_capital ‹_›
  · rw [toLower_of_other ‹_›]

theorem digitIn_eq_some_iff (small : base ≤ 16) {c : Char} {digit : Nat} :
    digitIn base c = some digit ↔ digit < base ∧ c.toLower = Nat.digitChar digit := by
  have bounds (low high : Char) : (decide (low ≤ c) && decide (c ≤ high)) = true ↔
      low.toNat ≤ c.toNat ∧ c.toNat ≤ high.toNat := by
    simp only [Bool.and_eq_true, decide_eq_true_eq]
    rfl
  unfold digitIn
  simp only [bounds, Char.reduceToNat, Option.filter_eq_some_iff, decide_eq_true_eq]
  rw [and_comm, and_congr_right_iff]
  intro within
  rw [← Char.toNat_inj, code_toLower, code_digitChar (Nat.lt_of_lt_of_le within small)]
  split_ifs <;> simp only [Option.some.injEq, false_iff] <;> omega

/-- Digits read onto what has been read before add their own value to it, shifted. -/
theorem readDigits_eq_some_iff (small : base ≤ 16) {digits : List Char} {start n : Nat} :
    readDigits base digits start = some n ↔
      ∃ values : List Nat, (∀ value ∈ values, value < base) ∧
        digits.map Char.toLower = values.map Nat.digitChar ∧
        n = start * base ^ values.length + Nat.ofDigits base values.reverse := by
  induction digits generalizing start with
  | nil =>
    simp only [readDigits, Option.some.injEq, List.map_nil]
    constructor
    · rintro rfl
      exact ⟨[], by simp⟩
    · rintro ⟨values, -, spelled, rfl⟩
      obtain rfl := List.map_eq_nil_iff.mp spelled.symm
      simp
  | cons c digits ih =>
    simp only [readDigits, Option.bind_eq_some_iff, digitIn_eq_some_iff small, ih]
    constructor
    · rintro ⟨first, ⟨within, same⟩, others, bounded, spelled, rfl⟩
      refine ⟨first :: others, List.forall_mem_cons.mpr ⟨within, bounded⟩,
        by simp [same, spelled], ?_⟩
      simp only [List.length_cons, List.reverse_cons, Nat.ofDigits_append, List.length_reverse,
        Nat.ofDigits_singleton]
      ring
    · rintro ⟨values, bounded, spelled, rfl⟩
      obtain ⟨first, others, rfl, same, rest⟩ := List.map_eq_cons_iff.mp spelled.symm
      obtain ⟨within, bounded⟩ := List.forall_mem_cons.mp bounded
      refine ⟨first, ⟨within, same.symm⟩, others, bounded, rest.symm, ?_⟩
      simp only [List.length_cons, List.reverse_cons, Nat.ofDigits_append, List.length_reverse,
        Nat.ofDigits_singleton]
      ring

theorem readDigits_zero_eq_some_iff (small : base ≤ 16) {digits : List Char} {n : Nat} :
    digits ≠ [] ∧ readDigits base digits 0 = some n ↔ LiteralOf base digits n := by
  simp only [readDigits_eq_some_iff small, Nat.zero_mul, Nat.zero_add]
  exact ⟨fun ⟨nonempty, spelled⟩ => ⟨nonempty, spelled⟩,
    fun ⟨nonempty, spelled⟩ => ⟨nonempty, spelled⟩⟩

theorem LiteralOf.not_plus (small : base ≤ 16) {rest : List Char} {n : Nat} :
    ¬LiteralOf base ('+' :: rest) n := by
  rintro ⟨-, values, bounded, spelled, -⟩
  obtain ⟨first, others, rfl, same, -⟩ := List.map_eq_cons_iff.mp spelled.symm
  have within := Nat.lt_of_lt_of_le (bounded first List.mem_cons_self) small
  have code := code_digitChar within
  rw [same] at code
  split_ifs at code <;> simp at code

theorem LiteralOf.isWord (small : base ≤ 16) {digits : List Char} {n : Nat}
    (literal : LiteralOf base digits n) : ∀ c ∈ digits, isWord c = true := by
  intro c member
  obtain ⟨values, bounded, spelled, -⟩ := literal.spelled
  have lowered : c.toLower ∈ values.map Nat.digitChar := spelled ▸ List.mem_map_of_mem member
  obtain ⟨value, listed, same⟩ := List.mem_map.mp lowered
  have code := code_digitChar (Nat.lt_of_lt_of_le (bounded value listed) small)
  rw [same, code_toLower] at code
  have within := Nat.lt_of_lt_of_le (bounded value listed) small
  refine isWord_of_code ?_
  split_ifs at code <;> omega

/-- A word is a literal below the limit, and a plus in front of it is passed over. -/
theorem readWord_eq_some_iff (small : base ≤ 16) {chars : List Char} {n : Nat} :
    readWord base chars = some n ↔
      n < wordLimit ∧ (LiteralOf base chars n ∨
        ∃ digits, chars = '+' :: digits ∧ LiteralOf base digits n) := by
  have literal (digits : List Char) :
      (if digits.isEmpty then none else (readDigits base digits 0).filter (· < wordLimit)) =
        some n ↔ n < wordLimit ∧ LiteralOf base digits n := by
    rw [← readDigits_zero_eq_some_iff small, Option.ite_none_left_eq_some, List.isEmpty_iff,
      Option.filter_eq_some_iff, decide_eq_true_eq]
    tauto
  by_cases signed : ∃ digits, chars = '+' :: digits
  · obtain ⟨digits, rfl⟩ := signed
    refine (literal digits).trans (and_congr_right fun _ => ?_)
    simp [LiteralOf.not_plus small]
  · have unsigned : readWord base chars =
        if chars.isEmpty then none else (readDigits base chars 0).filter (· < wordLimit) := by
      unfold readWord
      split
      · rename_i digits
        exact absurd ⟨digits, rfl⟩ signed
      · rfl
    rw [unsigned, literal]
    refine and_congr_right fun _ => ⟨.inl, ?_⟩
    rintro (whole | ⟨digits, rfl, -⟩)
    · exact whole
    · exact absurd ⟨digits, rfl⟩ signed

end Literals

end Tabular.Number
