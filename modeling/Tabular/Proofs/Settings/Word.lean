import Tabular.Proofs.Number.Integer
import Tabular.Proofs.Text.LowerCase
import Tabular.Proofs.Value.Display
import Tabular.Settings.Entry

/-! Words of the environment.

A word stands for the truth value, the integer or the real that it spells, and for its own text if
it spells none of them. What a scalar is printed as spells the scalar again, or an integer of the
same print; only minus zero, which is a real, is printed as what spells the integer without a sign.
-/

set_option autoImplicit false

namespace Tabular.Settings.Entry

open Number Text

/-! ## Reals -/

def infinityNames : List (List Char) := ["inf".toList, "infinity".toList]

def NamesReal (name : List Char) : Prop :=
  name.map Char.toLower ∈ infinityNames ∨ name.map Char.toLower = "nan".toList

inductive RealOf : List Char → Float → Prop where
  | infinity {sign name : List Char} {negative : Bool} : SignOf sign negative →
      name.map Char.toLower ∈ infinityNames →
      RealOf (sign ++ name) (withSign negative Number.infinity)
  | notANumber {sign name : List Char} {negative : Bool} : SignOf sign negative →
      name.map Char.toLower = "nan".toList → RealOf (sign ++ name) Number.notANumber
  | decimal {sign digits : List Char} {negative : Bool} {decimal : Decimal} :
      SignOf sign negative → DecimalOf digits decimal →
      RealOf (sign ++ digits) (withSign negative decimal.toFloat)

section Reals

variable {chars sign name digits : List Char} {negative : Bool} {decimal : Decimal} {x : Float}

theorem code_of_isDecimalChar {c : Char} (plain : isDecimalChar c = true) :
    c.toNat < 128 ∧ c.toLower ∉ ['i', 'n', 't', 'f'] := by
  rcases Bool.or_eq_true_iff.mp plain with digit | other
  · obtain ⟨low, high⟩ := code_of_isAsciiDigit digit
    rw [toLower_of_other (by omega)]
    refine ⟨by omega, fun member => ?_⟩
    have letters : ∀ letter ∈ ['i', 'n', 't', 'f'], 57 < letter.toNat := by decide
    have := letters c member
    omega
  · have marks : ∀ mark ∈ ['.', 'e', 'E', '+', '-'],
        mark.toNat < 128 ∧ mark.toLower ∉ ['i', 'n', 't', 'f'] := by decide
    exact marks c (of_decide_eq_true other)

theorem exists_decimalChar_cons (isDecimal : DecimalOf digits decimal) :
    ∃ c rest, digits = c :: rest ∧ isDecimalChar c = true := by
  have plain := isDecimal.decimalChars
  cases digits with
  | nil =>
    rw [← readDecimal_eq_some_iff] at isDecimal
    cases isDecimal
  | cons c rest => exact ⟨c, rest, rfl, plain c List.mem_cons_self⟩

theorem exists_named_cons (named : NamesReal name) :
    ∃ c rest, name = c :: rest ∧ (c.toLower = 'i' ∨ c.toLower = 'n') := by
  have spelled : name.map Char.toLower = 'i' :: "nf".toList ∨
      name.map Char.toLower = 'i' :: "nfinity".toList ∨
      name.map Char.toLower = 'n' :: "an".toList := by
    rcases named with infinite | missing
    · simp only [infinityNames, List.mem_cons, List.not_mem_nil, or_false] at infinite
      exact infinite.imp_right .inl
    · exact .inr (.inr missing)
  rcases spelled with spelled | spelled | spelled <;>
  · obtain ⟨c, rest, rfl, same, -⟩ := List.map_eq_cons_iff.mp spelled
    exact ⟨c, rest, rfl, by simp [same]⟩

theorem code_of_named {c : Char} (first : c.toLower = 'i' ∨ c.toLower = 'n') :
    c.toNat < 128 ∧ isSignChar c = false := by
  have letter : 97 ≤ c.toLower.toNat ∧ c.toLower.toNat ≤ 122 := by
    rcases first with same | same <;> rw [same] <;> decide
  have code := code_of_toLower letter
  have apart (mark : Char) (below : mark.toNat < 65) : c ≠ mark := by
    rintro rfl
    omega
  refine ⟨by omega, ?_⟩
  simp [isSignChar, apart '+' (by decide), apart '-' (by decide)]

theorem wordOfReal_of_splitSign (split : splitSign chars = (negative, name)) :
    wordOfReal chars =
      if name.map Char.toLower ∈ infinityNames then some (withSign negative Number.infinity)
      else if name.map Char.toLower = "nan".toList then some Number.notANumber
      else readSigned chars := by
  have infinite : (decide (name.map Char.toLower = ['i', 'n', 'f']) ||
      decide (name.map Char.toLower = ['i', 'n', 'f', 'i', 'n', 'i', 't', 'y'])) = true ↔
      name.map Char.toLower ∈ infinityNames := by
    simp [infinityNames]
  simp only [wordOfReal, split, infinite]
  rfl

theorem wordOfReal_eq_some_iff : wordOfReal chars = some x ↔ RealOf chars x := by
  constructor
  · intro read
    obtain ⟨sign, whole, isSign⟩ := exists_sign chars
    generalize parts : splitSign chars = found at whole isSign
    obtain ⟨negative, name⟩ := found
    rw [wordOfReal_of_splitSign parts] at read
    split_ifs at read with infinite missing
    · cases read
      exact whole ▸ .infinity isSign infinite
    · cases read
      exact whole ▸ .notANumber isSign missing
    · obtain ⟨sign, negative, digits, decimal, rfl, isSign, isDecimal, rfl⟩ :=
        readSigned_eq_some_iff.mp read
      exact .decimal isSign isDecimal
  · intro isReal
    have stops {name : List Char} (named : NamesReal name) : Stops isSignChar name := by
      obtain ⟨c, rest, rfl, first⟩ := exists_named_cons named
      exact stops_cons (code_of_named first).2 rest
    cases isReal with
    | infinity isSign infinite =>
      rw [wordOfReal_of_splitSign (splitSign_append isSign (stops (.inl infinite))),
        if_pos infinite]
    | notANumber isSign missing =>
      have finite : "nan".toList ∉ infinityNames := by decide
      rw [wordOfReal_of_splitSign (splitSign_append isSign (stops (.inr missing))), missing,
        if_neg finite, if_pos rfl]
    | decimal isSign isDecimal =>
      obtain ⟨c, rest, rfl, plain⟩ := exists_decimalChar_cons isDecimal
      have unnamed : ¬NamesReal (c :: rest) := by
        intro named
        obtain ⟨_, _, starts, first⟩ := exists_named_cons named
        obtain ⟨rfl, rfl⟩ := List.cons.inj starts
        refine (code_of_isDecimalChar plain).2 ?_
        rcases first with same | same <;> rw [same] <;> decide
      rw [wordOfReal_of_splitSign (splitSign_append isSign isDecimal.stops_sign),
        if_neg (unnamed ∘ .inl), if_neg (unnamed ∘ .inr)]
      exact readSigned_eq_some_iff.mpr ⟨_, _, _, _, rfl, isSign, isDecimal, rfl⟩

theorem RealOf.exists_cons (isReal : RealOf chars x) :
    ∃ c rest, chars = c :: rest ∧ c.toNat < 128 ∧ c.toLower ∉ ['t', 'f'] := by
  have signed {sign rest : List Char} {negative : Bool} (isSign : SignOf sign negative)
      (unsigned : ∃ c others, rest = c :: others ∧ c.toNat < 128 ∧ c.toLower ∉ ['t', 'f']) :
      ∃ c others, sign ++ rest = c :: others ∧ c.toNat < 128 ∧ c.toLower ∉ ['t', 'f'] := by
    cases isSign with
    | none => exact unsigned
    | plus => exact ⟨'+', rest, rfl, by decide⟩
    | minus => exact ⟨'-', rest, rfl, by decide⟩
  have named {name : List Char} (named : NamesReal name) :
      ∃ c others, name = c :: others ∧ c.toNat < 128 ∧ c.toLower ∉ ['t', 'f'] := by
    obtain ⟨c, rest, rfl, first⟩ := exists_named_cons named
    refine ⟨c, rest, rfl, (code_of_named first).1, ?_⟩
    rcases first with same | same <;> rw [same] <;> decide
  cases isReal with
  | infinity isSign infinite => exact signed isSign (named (.inl infinite))
  | notANumber isSign missing => exact signed isSign (named (.inr missing))
  | decimal isSign isDecimal =>
    obtain ⟨c, rest, rfl, plain⟩ := exists_decimalChar_cons isDecimal
    obtain ⟨ascii, other⟩ := code_of_isDecimalChar plain
    refine signed isSign ⟨c, rest, rfl, ascii, fun member => other ?_⟩
    exact List.mem_cons_of_mem _ (List.mem_cons_of_mem _ member)

end Reals

/-! ## Scalars -/

/-- The scalars that a word spells. Digits for an integer that 64 bits hold are no real. -/
inductive Spells (text : String) : Entry → Prop where
  | truth (value : Bool) : Text.lower text = toString value → Spells text (.boolean value)
  | integer {value : Int} : IntegerOf text.toList value → isSigned value = true →
      Spells text (.integer value)
  | real {x : Float} : RealOf text.toList x →
      (∀ value, IntegerOf text.toList value → isSigned value = false) → Spells text (.real x)

section Words

variable {text : String} {scalar : Entry}

theorem lower_ne_truth {x : Float} (isReal : RealOf text.toList x) (value : Bool) :
    Text.lower text ≠ toString value := by
  obtain ⟨c, rest, starts, ascii, other⟩ := isReal.exists_cons
  intro same
  have first : (Text.lower text).toList.head? = some c.toLower := by
    rw [Text.lower, String.toList_ofList, starts]
    exact head?_lowerChars ascii
  rw [same] at first
  refine other ?_
  cases value with
  | true => exact Option.some.inj first ▸ List.mem_cons_self
  | false => exact Option.some.inj first ▸ List.mem_cons_of_mem _ List.mem_cons_self

theorem realOf_of_integerOf {chars : List Char} {value : Int} (isInteger : IntegerOf chars value) :
    ∃ x, RealOf chars x := by
  cases isInteger with
  | digits isSign isDigits =>
    have whole := DecimalOf.whole isDigits .none
    rw [List.append_nil] at whole
    exact ⟨_, .decimal isSign whole⟩

theorem ofWord_of_readInteger (untrue : ∀ value : Bool, Text.lower text ≠ toString value) :
    ofWord text =
      match readInteger text.toList with
      | some value => .integer value
      | none =>
        match wordOfReal text.toList with
        | some value => .real value
        | none => .text text := by
  have notTrue : Text.lower text ≠ "true" := untrue true
  have notFalse : Text.lower text ≠ "false" := untrue false
  exact (if_neg notTrue).trans (if_neg notFalse)

theorem ofWord_of_spells (spells : Spells text scalar) : ofWord text = scalar := by
  cases spells with
  | truth value named =>
    cases value with
    | true =>
      have true : Text.lower text = "true" := named
      rw [ofWord, if_pos true]
    | false =>
      have false : Text.lower text = "false" := named
      rw [ofWord, if_neg (by rw [false]; decide), if_pos false]
  | integer isInteger within =>
    obtain ⟨x, isReal⟩ := realOf_of_integerOf isInteger
    rw [ofWord_of_readInteger (lower_ne_truth isReal),
      readInteger_eq_some_iff.mpr ⟨isInteger, within⟩]
  | real isReal beyond =>
    have unread : readInteger text.toList = none := by
      rw [Option.eq_none_iff_forall_ne_some]
      intro value read
      obtain ⟨isInteger, within⟩ := readInteger_eq_some_iff.mp read
      rw [beyond value isInteger] at within
      cases within
    rw [ofWord_of_readInteger (lower_ne_truth isReal), unread, wordOfReal_eq_some_iff.mpr isReal]

/-- A word is its text exactly when it spells no scalar. -/
theorem spells_or_text (text : String) :
    (∃ scalar, Spells text scalar ∧ ofWord text = scalar) ∨
      (∀ scalar, ¬Spells text scalar) ∧ ofWord text = .text text := by
  by_cases spelled : ∃ scalar, Spells text scalar
  · obtain ⟨scalar, spells⟩ := spelled
    exact .inl ⟨scalar, spells, ofWord_of_spells spells⟩
  · have unspelled := not_exists.mp spelled
    refine .inr ⟨unspelled, ?_⟩
    rw [ofWord_of_readInteger fun value named => unspelled _ (.truth value named)]
    cases whole : readInteger text.toList with
    | some value =>
      obtain ⟨isInteger, within⟩ := readInteger_eq_some_iff.mp whole
      exact absurd (.integer isInteger within) (unspelled _)
    | none =>
      cases read : wordOfReal text.toList with
      | some x =>
        refine absurd (.real (wordOfReal_eq_some_iff.mp read) fun value isInteger => ?_)
          (unspelled (.real x))
        rw [Bool.eq_false_iff]
        intro within
        rw [readInteger_eq_some_iff.mpr ⟨isInteger, within⟩] at whole
        cases whole
      | none => rfl

end Words

/-! ## Printed scalars -/

inductive IsScalar : Entry → Prop where
  | boolean (value : Bool) : IsScalar (.boolean value)
  | integer {value : Int} : isSigned value = true → IsScalar (.integer value)
  | real (value : Float) : IsScalar (.real value)

/-- A text that a scalar is printed as, other than that of minus zero. -/
structure Canonical (text : String) : Prop where
  nonzero : text ≠ "-0"
  printed : ∃ scalar : Entry, scalar.IsScalar ∧ scalar.toText? = some text

section Prints

variable {text : String} {scalar : Entry} {x : Float}

theorem Spells.isScalar (spells : Spells text scalar) : scalar.IsScalar := by
  cases spells with
  | truth value => exact .boolean value
  | integer _ within => exact .integer within
  | real => exact .real _

theorem whole_of_isDigits {printed : Printed} (isDigits : IsDigits printed.chars) :
    printed.chars = printed.whole := by
  have absent (mark : Char) (foreign : isAsciiDigit mark = false) : mark ∉ printed.chars :=
    fun member => Bool.false_ne_true (foreign.symm.trans (isDigits.all mark member))
  have fraction : printed.fractionChars = [] := by
    by_cases none : printed.fraction.isEmpty = true
    · rw [Printed.fractionChars, if_pos none]
    · refine absurd ?_ (absent '.' (by decide))
      simp [Printed.chars, Printed.fractionChars, none]
  have exponent : Printed.exponentChars printed.exponent = [] := by
    cases marked : printed.exponent with
    | none => rfl
    | some power =>
      refine absurd ?_ (absent 'e' (by decide))
      rw [Printed.chars, marked, Printed.exponentChars]
      split_ifs <;> simp
  rw [Printed.chars, fraction, exponent, List.append_nil, List.append_nil]

theorem splitSign_printed (printed : Printed) (negative : Bool) :
    splitSign (if negative then '-' :: printed.chars else printed.chars) =
      (negative, printed.chars) := by
  cases negative with
  | true => rfl
  | false => exact splitSign_append .none printed.decimalOf.stops_sign

theorem toString_of_integerOf {printed : Printed} {negative : Bool} {value : Int}
    (isInteger : IntegerOf (if negative then '-' :: printed.chars else printed.chars) value)
    (nonzero : (if negative then '-' :: printed.chars else printed.chars) ≠ "-0".toList) :
    (toString value).toList = if negative then '-' :: printed.chars else printed.chars := by
  obtain ⟨isDigits, rfl⟩ := isInteger.of_splitSign (splitSign_printed printed negative)
  have digits := toDigits_digitsValue isDigits (by
    rw [whole_of_isDigits isDigits]
    exact printed.leading)
  cases negative with
  | false => exact (toList_toString_natCast _).trans digits
  | true =>
    have positive : 0 < digitsValue printed.chars 0 := by
      refine Nat.pos_of_ne_zero fun zero => nonzero ?_
      rw [zero] at digits
      rw [if_pos rfl, ← digits]
      rfl
    rw [signed, if_pos rfl, toList_toString_neg positive, digits, if_pos rfl]

theorem realOf_printed (printed : Printed) (negative : Bool) :
    RealOf (if negative then '-' :: printed.chars else printed.chars)
      (withSign negative printed.decimal.toFloat) := by
  cases negative with
  | true => exact .decimal .minus printed.decimalOf
  | false =>
    have plain := RealOf.decimal .none printed.decimalOf
    exact plain

/-- What a finite real is printed as is read as the real, or as an integer of the same print. -/
theorem toText?_ofWord_finite (finite : IsFinite x)
    (nonzero : String.ofList (finiteText plainLayout x) ≠ "-0") :
    (ofWord (String.ofList (finiteText plainLayout x))).toText? =
      some (String.ofList (finiteText plainLayout x)) := by
  obtain ⟨printed, chars, read, -⟩ := exists_printed_finiteText plainLayout finite
  have isReal : RealOf (finiteText plainLayout x) x := by
    have printedReal := realOf_printed printed (isNegative x)
    rwa [← chars, read] at printedReal
  -- A real of no fraction is printed with the digits of an integer, and read back as one.
  by_cases whole : ∃ value, IntegerOf (finiteText plainLayout x) value ∧ isSigned value = true
  · obtain ⟨value, isInteger, within⟩ := whole
    have same : toString value = String.ofList (finiteText plainLayout x) := by
      refine String.toList_injective ?_
      rw [String.toList_ofList, chars]
      refine toString_of_integerOf (chars ▸ isInteger) fun zero => nonzero ?_
      rw [chars, zero]
      rfl
    have spells : Spells (String.ofList (finiteText plainLayout x)) (.integer value) :=
      .integer (by rwa [String.toList_ofList]) within
    rw [ofWord_of_spells spells, ← same]
    rfl
  · have spells : Spells (String.ofList (finiteText plainLayout x)) (.real x) := by
      refine .real (by rwa [String.toList_ofList]) fun value isInteger => ?_
      rw [String.toList_ofList] at isInteger
      exact Bool.eq_false_iff.mpr fun within => whole ⟨value, isInteger, within⟩
    rw [ofWord_of_spells spells, toText?, realText, finite.isNaN, finite.isInf]
    rfl

theorem toText?_ofWord_real (nonzero : realText x ≠ "-0") :
    (ofWord (realText x)).toText? = some (realText x) := by
  rw [realText] at nonzero ⊢
  split_ifs at nonzero ⊢ with missing infinite negative
  · decide
  · decide
  · decide
  · refine toText?_ofWord_finite ?_ nonzero
    rw [IsFinite, Bool.eq_false_iff.mpr missing, Bool.eq_false_iff.mpr infinite]
    rfl

theorem toText?_ofWord_of_canonical (canonical : Canonical text) :
    (ofWord text).toText? = some text := by
  obtain ⟨nonzero, scalar, isScalar, printed⟩ := canonical
  cases isScalar with
  | boolean value =>
    have same : Text.lower (toString value) = toString value := by cases value <;> decide
    have shown : (Entry.boolean value).toText? = some (toString value) := by cases value <;> rfl
    obtain rfl := Option.some.inj (shown.symm.trans printed)
    rw [ofWord_of_spells (.truth value same), shown]
  | @integer value within =>
    obtain rfl := Option.some.inj printed
    rw [ofWord_of_spells (.integer (integerOf_toString value) within)]
    rfl
  | real x =>
    obtain rfl := Option.some.inj printed
    exact toText?_ofWord_real nonzero

theorem toText?_ofWord_eq_self_iff (text : String) :
    (ofWord text).toText? = some text ↔ (∀ scalar, ¬Spells text scalar) ∨ Canonical text := by
  constructor
  · intro same
    rcases spells_or_text text with ⟨scalar, spells, rfl⟩ | ⟨unspelled, -⟩
    · refine .inr ⟨?_, _, spells.isScalar, same⟩
      -- Minus zero is the one print that is read as another scalar of another print.
      rintro rfl
      have zero : Spells "-0" (.integer 0) :=
        .integer (.digits .minus ⟨List.cons_ne_nil '0' [], by decide⟩) (by decide)
      rw [ofWord_of_spells zero] at same
      exact absurd (Option.some.inj same) (by decide)
    · exact .inl unspelled
  · rintro (unspelled | canonical)
    · rcases spells_or_text text with ⟨scalar, spells, -⟩ | ⟨-, plain⟩
      · exact absurd spells (unspelled scalar)
      · rw [plain]
        rfl
    · exact toText?_ofWord_of_canonical canonical

/-- What a word is taken for where a text is wanted: the print of what it spells, or itself. -/
inductive TakenFor (text : String) : String → Prop where
  | scalar {scalar : Entry} {shown : String} : Spells text scalar → scalar.toText? = some shown →
      TakenFor text shown
  | plain : (∀ scalar, ¬Spells text scalar) → TakenFor text text

theorem exists_takenFor (text : String) :
    ∃ shown, TakenFor text shown ∧ (ofWord text).toText? = some shown := by
  rcases spells_or_text text with ⟨scalar, spells, read⟩ | ⟨unspelled, plain⟩
  · obtain ⟨shown, printed⟩ : ∃ shown, scalar.toText? = some shown := by
      cases spells.isScalar with
      | boolean value => cases value <;> exact ⟨_, rfl⟩
      | integer => exact ⟨_, rfl⟩
      | real => exact ⟨_, rfl⟩
    exact ⟨shown, .scalar spells printed, read ▸ printed⟩
  · exact ⟨text, .plain unspelled, plain ▸ rfl⟩

end Prints

end Tabular.Settings.Entry
