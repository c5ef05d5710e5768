import Tabular.Json.Printer
import Tabular.Json.Scalar
import Tabular.Proofs.Number.Printed
import Tabular.Proofs.Text.Reader

/-! Printed words, strings and numerals read back.

A string ends with its quote, but a numeral goes on as long as there are characters for it. So
numerals read back where what follows is not one of those.
-/

set_option autoImplicit false

namespace Tabular.Json

open Number (Printed)
open Text

variable {care : Care}

theorem reads_wordRest (word rest : List Char) : Reads (wordRest word) (word ++ rest) () rest := by
  induction word with
  | nil => exact .done () rest
  | cons letter letters ih => exact .afterOne (if_pos rfl) ih

/-! ## Strings -/

theorem reads_textRest_end (care : Care) (rest : List Char) :
    Reads (textRest care) ('"' :: rest) [] rest :=
  ⟨Nat.le_succ _, by rw [textRest, if_pos rfl]⟩

theorem reads_textRest_escape {c : Char} {escaped input rest others : List Char}
    (first : Reads (escape care) escaped c input)
    (after : Reads (textRest care) input others rest) :
    Reads (textRest care) ('\\' :: escaped) (c :: others) rest := by
  obtain ⟨within, found⟩ := first
  obtain ⟨further, read⟩ := after
  refine ⟨Nat.le_succ_of_le (Nat.le_trans further within), ?_⟩
  rw [textRest, if_neg (by decide), if_pos rfl, found]
  simp only [read, behind]

theorem reads_textRest_plain {c : Char} {input rest others : List Char} (quote : c ≠ '"')
    (backslash : c ≠ '\\') (plain : ¬c < ' ') (after : Reads (textRest care) input others rest) :
    Reads (textRest care) (c :: input) (c :: others) rest := by
  obtain ⟨within, read⟩ := after
  refine ⟨Nat.le_succ_of_le within, ?_⟩
  rw [textRest, if_neg quote, if_neg backslash, if_neg plain, read]

theorem reads_fourDigits {code : Nat} (control : code < 32) (rest : List Char) :
    Reads fourDigits
      ('0' :: '0' :: Nat.digitChar (code / 16) :: Nat.digitChar (code % 16) :: rest) code rest := by
  have digits : ∀ code < 32, Number.readDigits 16
      ['0', '0', Nat.digitChar (code / 16), Nat.digitChar (code % 16)] 0 = some code := by
    decide
  refine ⟨by simp only [List.length_cons]; omega, ?_⟩
  simp only [fourDigits, digits code control]

theorem reads_codeEscape {c : Char} (control : c < ' ') (rest : List Char) :
    Reads (codeEscape care)
      ('0' :: '0' :: Nat.digitChar (c.toNat / 16) :: Nat.digitChar (c.toNat % 16) :: rest)
      c rest := by
  have bound : c.toNat < 32 := control
  refine .andThen (reads_fourDigits bound rest) ?_
  have trail : isTrail c.toNat = false := by
    simp only [isTrail, decide_eq_false_iff_not]
    omega
  have lead : isLead c.toNat = false := by
    simp only [isLead, decide_eq_false_iff_not]
    omega
  have read := Reads.done (ε := Fault) (Char.ofNat c.toNat) rest
  rw [Char.ofNat_toNat] at read
  cases care <;> simpa [trail, lead] using read

theorem reads_escapeChar {c : Char} {input others rest : List Char}
    (after : Reads (textRest care) input others rest) :
    Reads (textRest care) (escapeChar c ++ input) (c :: others) rest := by
  unfold escapeChar
  split
  case h_8 quote backslash _ _ _ _ _ =>
    split
    next control =>
      exact reads_textRest_escape (.afterOne rfl (reads_codeEscape control input)) after
    next plain => exact reads_textRest_plain quote backslash plain after
  -- The other characters have an escape of one letter.
  all_goals exact reads_textRest_escape (.afterOne rfl (.done _ _)) after

theorem reads_printText (care : Care) (text : String) (rest : List Char) :
    Reads (textAfterQuote care) (text.toList.flatMap escapeChar ++ '"' :: rest) text rest := by
  have chars (passed : List Char) :
      Reads (textRest care) (passed.flatMap escapeChar ++ '"' :: rest) passed rest := by
    induction passed with
    | nil => exact reads_textRest_end care rest
    | cons c passed ih =>
      rw [List.flatMap_cons, List.append_assoc]
      exact reads_escapeChar ih
  have read := (chars text.toList).map (f := String.ofList)
  rwa [String.ofList_toList] at read

/-! ## Numerals -/

variable (care)

def inFraction (c : Char) : Bool := isAsciiDigit c || c == '.'

def inNumeral (c : Char) : Bool := inFraction c || c == 'e' || c == 'E'

theorem stops_digit {rest : List Char} (stops : Stops inFraction rest) : Stops isAsciiDigit rest :=
  stops.mono fun c refused => by
    simp only [inFraction, Bool.or_eq_false_iff] at refused
    exact refused.1

theorem stops_inFraction {rest : List Char} (stops : Stops inNumeral rest) :
    Stops inFraction rest :=
  stops.mono fun c refused => by
    simp only [inNumeral, Bool.or_eq_false_iff] at refused
    exact refused.1.1

theorem reads_digits {run rest : List Char} (nonempty : run ≠ [])
    (all : ∀ c ∈ run, isAsciiDigit c = true) (stops : Stops isAsciiDigit rest) :
    Reads (digits care) (run ++ rest) run rest := by
  obtain ⟨first, others, rfl⟩ := List.exists_cons_of_ne_nil nonempty
  obtain ⟨head, tail⟩ := List.forall_mem_cons.mp all
  refine ⟨by simp only [List.length_append]; omega, ?_⟩
  simp only [digits, List.cons_append, head, if_true, takeWhile_run tail stops,
    dropWhile_run tail stops]

theorem reads_wholeDigits {run rest : List Char} (nonempty : run ≠ [])
    (all : ∀ c ∈ run, isAsciiDigit c = true) (leading : run = ['0'] ∨ run.head? ≠ some '0')
    (stops : Stops isAsciiDigit rest) : Reads (wholeDigits care) (run ++ rest) run rest := by
  refine .andThen (reads_digits care nonempty all stops) ?_
  split
  next => simp at leading
  next => exact .done _ _

theorem reads_fraction {run rest : List Char} (all : ∀ c ∈ run, isAsciiDigit c = true)
    (stops : Stops inFraction rest) :
    Reads (fraction care) ((if run.isEmpty then [] else '.' :: run) ++ rest) run rest := by
  cases run with
  | nil =>
    refine .congr ?_ (.done [] rest)
    change fraction care rest = Reader.done [] rest
    unfold fraction
    split
    next => exact absurd stops.head (by decide)
    next => rfl
  | cons first others =>
    exact .afterOne rfl (reads_digits care (List.cons_ne_nil first others) all (stops_digit stops))

theorem reads_signedExponent {rest : List Char} (value : Int)
    (stops : Stops isAsciiDigit rest) :
    Reads (signedExponent care)
      ((if value < 0 then '-' else '+') :: (Nat.toDigits 10 value.natAbs ++ rest)) value rest := by
  have run := reads_digits care (Nat.toDigits_ne_nil (n := value.natAbs) (b := 10))
    (fun _ member => isAsciiDigit_of_mem_toDigits member) stops
  split_ifs with negative
  · have read := run.map (f := fun found => -(digitsValue found 0 : Int))
    rw [digitsValue_toDigits, show -(value.natAbs : Int) = value by omega] at read
    exact .afterOne rfl read
  · have read := run.map (f := fun found => (digitsValue found 0 : Int))
    rw [digitsValue_toDigits, show (value.natAbs : Int) = value by omega] at read
    exact .afterOne rfl read

theorem reads_exponent {rest : List Char} (value : Option Int)
    (stops : Stops inNumeral rest) :
    Reads (exponent care) (Printed.exponentChars value ++ rest) value rest := by
  cases value with
  | none =>
    refine .congr ?_ (.done none rest)
    change exponent care rest = Reader.done none rest
    unfold exponent
    split
    next => exact absurd stops.head (by decide)
    next => exact absurd stops.head (by decide)
    next => rfl
  | some value =>
    have read :=
      (reads_signedExponent care value (stops_digit (stops_inFraction stops))).map (f := some)
    simp only [Printed.exponentChars]
    split_ifs at read ⊢ <;> exact .afterOne rfl read

theorem stops_exponentChars (value : Option Int) {rest : List Char} (stops : Stops inNumeral rest) :
    Stops inFraction (Printed.exponentChars value ++ rest) := by
  cases value with
  | none => exact stops_inFraction stops
  | some value =>
    simp only [Printed.exponentChars]
    split_ifs <;> exact stops_cons (by decide) _

theorem stops_fractionChars (printed : Printed) {rest : List Char} (stops : Stops inFraction rest) :
    Stops isAsciiDigit (printed.fractionChars ++ rest) := by
  unfold Printed.fractionChars
  split_ifs
  · exact stops_digit stops
  · exact stops_cons (by decide) _

/-- A printed number is taken as a whole, where no numeral goes on. -/
theorem reads_magnitude (printed : Printed) (negative : Bool) {rest : List Char}
    (stops : Stops inNumeral rest)
    (finite : ∀ x, numeralValue negative printed.whole printed.fraction printed.exponent = .real x →
      x.isInf = false) :
    Reads (magnitude care negative) (printed.chars ++ rest)
      (numeralValue negative printed.whole printed.fraction printed.exponent) rest := by
  obtain ⟨whole, fraction⟩ := List.forall_mem_append.mp printed.digits
  have marked := stops_exponentChars printed.exponent stops
  rw [Printed.chars, List.append_assoc, List.append_assoc]
  refine .andThen (reads_wholeDigits care printed.nonempty whole printed.leading
    (stops_fractionChars printed marked)) ?_
  refine .andThen (reads_fraction care fraction marked) ?_
  refine .andThen (reads_exponent care printed.exponent stops) ?_
  -- Only a real that is out of range is refused, and only where it is wanted.
  generalize numeralValue negative printed.whole printed.fraction printed.exponent = value
    at finite ⊢
  cases care with
  | skimming => exact .done value rest
  | careful =>
    cases value with
    | real x => exact .congr (by simp only [finite x rfl]; rfl) (.done (Json.real x) rest)
    | _ => exact .done _ rest

theorem numeralValue_of_isMarked {printed : Printed} (marked : printed.isMarked = true)
    (negative : Bool) :
    numeralValue negative printed.whole printed.fraction printed.exponent =
      .real (Number.withSign negative printed.decimal.toFloat) := by
  rw [Printed.isMarked] at marked
  simp only [numeralValue, marked, if_true, Printed.decimal, digitsValue_append]

theorem numeralValue_natCast {n : Nat} (bounded : n < Number.wordLimit) :
    numeralValue false (Nat.toDigits 10 n) [] none = .integer n := by
  simp [numeralValue, digitsValue_toDigits, bounded]

theorem numeralValue_neg {n : Nat} (positive : 0 < n) (bounded : n ≤ Number.signedLimit) :
    numeralValue true (Nat.toDigits 10 n) [] none = .integer (-n) := by
  simp [numeralValue, digitsValue_toDigits, positive, bounded]

def printedNat (n : Nat) : Printed where
  whole := Nat.toDigits 10 n
  fraction := []
  exponent := none
  nonempty := Nat.toDigits_ne_nil
  digits c member := isAsciiDigit_of_mem_toDigits (List.append_nil _ ▸ member)
  leading := by
    by_cases zero : n = 0
    · exact .inl (zero ▸ Nat.toDigits_zero 10)
    · exact .inr (head?_toDigits_ne_zero zero)

theorem chars_printedNat (n : Nat) : (printedNat n).chars = Nat.toDigits 10 n := by
  simp [printedNat, Printed.chars, Printed.fractionChars, Printed.exponentChars]

/-! ## Scalars -/

theorem reads_scalar_digit {c : Char} {input rest : List Char} {json : Json}
    (digit : isAsciiDigit c = true) (read : Reads (magnitude care false) (c :: input) json rest) :
    Reads (scalar care) (c :: input) json rest := by
  have other (mark : Char) (refused : isAsciiDigit mark = false) : c ≠ mark := by
    rintro rfl
    exact Bool.false_ne_true (refused.symm.trans digit)
  refine .congr ?_ read
  simp only [scalar, other 'n' rfl, other 't' rfl, other 'f' rfl, other '"' rfl, other '-' rfl,
    if_false, digit, if_true]

theorem exists_chars_cons (printed : Printed) :
    ∃ c rest, printed.chars = c :: rest ∧ isAsciiDigit c = true := by
  obtain ⟨first, others, whole⟩ := List.exists_cons_of_ne_nil printed.nonempty
  refine ⟨first, others ++ printed.fractionChars ++ Printed.exponentChars printed.exponent, ?_, ?_⟩
  · rw [Printed.chars, whole, List.cons_append, List.cons_append]
  · exact printed.digits first (by rw [whole]; exact List.mem_cons_self)

theorem reads_scalar_printed (printed : Printed) {rest : List Char} (stops : Stops inNumeral rest)
    (finite : ∀ x, numeralValue false printed.whole printed.fraction printed.exponent = .real x →
      x.isInf = false) :
    Reads (scalar care) (printed.chars ++ rest)
      (numeralValue false printed.whole printed.fraction printed.exponent) rest := by
  have read := reads_magnitude care printed false stops finite
  obtain ⟨first, others, chars, digit⟩ := exists_chars_cons printed
  rw [chars] at read ⊢
  exact reads_scalar_digit care digit read

theorem reads_scalar_minus (printed : Printed) {rest : List Char} (stops : Stops inNumeral rest)
    (finite : ∀ x, numeralValue true printed.whole printed.fraction printed.exponent = .real x →
      x.isInf = false) :
    Reads (scalar care) ('-' :: (printed.chars ++ rest))
      (numeralValue true printed.whole printed.fraction printed.exponent) rest :=
  .afterOne rfl (reads_magnitude care printed true stops finite)

theorem reads_scalar_integer {value : Int} {rest : List Char}
    (low : -(Number.signedLimit : Int) ≤ value) (high : value < Number.wordLimit)
    (stops : Stops inNumeral rest) :
    Reads (scalar care) ((toString value).toList ++ rest) (.integer value) rest := by
  rcases lt_or_ge value 0 with negative | nonnegative
  · obtain ⟨n, rfl⟩ : ∃ n : Nat, value = -n := ⟨value.natAbs, by omega⟩
    have same : numeralValue true (printedNat n).whole (printedNat n).fraction
        (printedNat n).exponent = .integer (-n) := numeralValue_neg (by omega) (by omega)
    have read := reads_scalar_minus care (printedNat n) stops (by simp [same])
    rw [toList_toString_neg (by omega)]
    rwa [same, chars_printedNat] at read
  · obtain ⟨n, rfl⟩ : ∃ n : Nat, value = n := ⟨value.toNat, by omega⟩
    have same : numeralValue false (printedNat n).whole (printedNat n).fraction
        (printedNat n).exponent = .integer n := numeralValue_natCast (by omega)
    have read := reads_scalar_printed care (printedNat n) stops (by simp [same])
    rw [toList_toString_natCast]
    rwa [same, chars_printedNat] at read

/-- A finite number is printed as digits behind its sign, and these stand for it as a real. -/
theorem exists_printed_printReal {x : Float} (finite : Number.IsFinite x) :
    ∃ printed : Printed,
      printReal x = (if Number.isNegative x then '-' :: printed.chars else printed.chars) ∧
      numeralValue (Number.isNegative x) printed.whole printed.fraction printed.exponent =
        .real x := by
  obtain ⟨printed, chars, read, marked⟩ := Number.exists_printed_finiteText realLayout finite
  refine ⟨printed, ?_, ?_⟩
  · rw [printReal, if_neg (Bool.eq_false_iff.mp finite), chars]
  · rw [numeralValue_of_isMarked (marked rfl), read]

theorem reads_scalar_real {x : Float} (finite : Number.IsFinite x) {rest : List Char}
    (stops : Stops inNumeral rest) :
    Reads (scalar care) (printReal x ++ rest) (.real x) rest := by
  obtain ⟨printed, text, real⟩ := exists_printed_printReal finite
  have bounded (y : Float) (equal : Json.real x = .real y) : y.isInf = false := by
    rw [← Json.real.inj equal]
    exact finite.isInf
  rw [text]
  cases sign : Number.isNegative x <;> rw [sign] at real
  · have read := reads_scalar_printed care printed stops
    rw [real] at read
    exact read bounded
  · have read := reads_scalar_minus care printed stops
    rw [real] at read
    exact read bounded

/-- Documents without parts, of numbers that are printed as numerals. -/
def Legible : Json → Prop
  | .null | .boolean _ | .text _ => True
  | .integer value => -(Number.signedLimit : Int) ≤ value ∧ value < Number.wordLimit
  | .real value => Number.IsFinite value
  | .list _ | .object _ => False

theorem reads_scalar {json : Json} (legible : json.Legible) {rest : List Char}
    (stops : Stops inNumeral rest) : Reads (scalar care) (json.compact ++ rest) json rest := by
  cases json with
  | null =>
    exact .afterOne rfl ((reads_wordRest ['u', 'l', 'l'] rest).map (f := fun _ => Json.null))
  | boolean value =>
    cases value
    · exact .afterOne rfl
        ((reads_wordRest ['a', 'l', 's', 'e'] rest).map (f := fun _ => Json.boolean false))
    · exact .afterOne rfl
        ((reads_wordRest ['r', 'u', 'e'] rest).map (f := fun _ => Json.boolean true))
  | integer value =>
    rw [compact]
    exact reads_scalar_integer care legible.1 legible.2 stops
  | real value =>
    rw [compact]
    exact reads_scalar_real care legible stops
  | text value =>
    rw [compact, printText, List.cons_append, List.append_assoc]
    exact .afterOne rfl (.map (reads_printText care value rest))
  | list items => exact legible.elim
  | object members => exact legible.elim

end Tabular.Json
