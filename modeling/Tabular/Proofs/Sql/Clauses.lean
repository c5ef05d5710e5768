import Tabular.Proofs.Text.CharClass
import Tabular.Proofs.Text.Pattern
import Tabular.Sql.Clauses

/-! Where each clause is found in a statement, and what is read from it.

A clause is found behind the first mention of its word, whatever the rest of the statement
says, and a clause whose word is not mentioned is absent. A WHERE clause goes up to the next
mention of GROUP, ORDER or LIMIT behind its first character, inside a name or a literal too.
-/

set_option autoImplicit false

namespace Tabular.Sql

open Text
open Text.Pattern

theorem stops_isBlank {run : List Char} (nonempty : run ≠ [])
    (wordChars : ∀ c ∈ run, isWord c = true) (rest : List Char) : Stops isBlank (run ++ rest) := by
  cases run with
  | nil => exact absurd rfl nonempty
  | cons c run =>
    exact stops_cons (isBlank_eq_false_of_isWord (wordChars c List.mem_cons_self)) (run ++ rest)

/-- Between a word and what has to follow it stand blanks, so a text without blanks that starts
with the word has to end there. -/
theorem exists_matchAt_blanks {letters text rest opened : List Char} {separator : Char}
    {next : Pattern} {before : Option Char} {captures : List (List Char)}
    (separates : Separates separator letters) (unblank : ∀ c ∈ text, isBlank c = false)
    (matched : (word letters (some1 isBlank next)).matchAt opened
      ⟨before, text ++ separator :: rest⟩ = some captures) :
    ∃ last, (some1 isBlank next).matchAt opened ⟨last, separator :: rest⟩ = some captures := by
  rw [matchAt_word, startsWord_append_cons separates] at matched
  split at matched
  · rename_i starts
    rw [List.drop_append_of_le_length (length_le_of_startsWord starts)] at matched
    -- The word ends at the separator, or before a character that is not blank either.
    cases remains : text.drop letters.length with
    | nil =>
      rw [remains] at matched
      exact ⟨_, matched⟩
    | cons c others =>
      have member : c ∈ text := List.mem_of_mem_drop (remains ▸ List.mem_cons_self)
      rw [remains, List.cons_append,
        matchAt_some1_eq_none (stops_cons (unblank c member) _)] at matched
      cases matched
  · cases matched

theorem matchAt_word_blanks_eq_none {letters text rest opened : List Char} {separator : Char}
    {next : Pattern} (separates : Separates separator letters)
    (unblank : ∀ c ∈ text, isBlank c = false)
    (unmatched : ∀ before,
      (some1 isBlank next).matchAt opened ⟨before, separator :: rest⟩ = none)
    (before : Option Char) :
    (word letters (some1 isBlank next)).matchAt opened ⟨before, text ++ separator :: rest⟩ =
      none := by
  rw [Option.eq_none_iff_forall_ne_some]
  intro captures matched
  obtain ⟨last, behind⟩ := exists_matchAt_blanks separates unblank matched
  rw [unmatched] at behind
  cases behind

section Limit

theorem findLimit_eq_none {text : List Char} (unmentioned : mentions "LIMIT".toList text = false) :
    findLimit text = none := by
  have unfound : limitPattern.find text = none := findFrom_word_eq_none unmentioned none
  simp only [findLimit, unfound]

theorem find_limitPattern {passed digits rest : List Char}
    (unmentioned : mentions "LIMIT".toList passed = false) (nonempty : digits ≠ [])
    (accepted : ∀ c ∈ digits, isAsciiDigit c = true) (stops : Stops isDigit rest) :
    limitPattern.find (passed ++ ' ' :: ("LIMIT".toList ++ ' ' :: (digits ++ rest))) =
      some [digits] := by
  have wordChars : ∀ c ∈ digits, isWord c = true :=
    fun c member => isWord_of_isAsciiDigit (accepted c member)
  have allDigits : ∀ c ∈ digits, isDigit c = true :=
    fun c member => isDigit_of_isAsciiDigit (accepted c member)
  unfold find limitPattern
  rw [findFrom_word_passes (by decide) (by decide) unmentioned]
  apply findFrom_here
  rw [matchAt_word_self, matchAt_some1_single (by decide) (stops_isBlank nonempty wordChars rest)]
  exact matchAt_capture nonempty allDigits stops _ rfl

theorem findLimit_digits {passed digits rest : List Char}
    (unmentioned : mentions "LIMIT".toList passed = false) (nonempty : digits ≠ [])
    (accepted : ∀ c ∈ digits, isAsciiDigit c = true) (stops : Stops isDigit rest) :
    findLimit (passed ++ ' ' :: ("LIMIT".toList ++ ' ' :: (digits ++ rest))) =
      if digitsValue digits 0 < Number.wordLimit then some (digitsValue digits 0) else none := by
  have all : digits.all isAsciiDigit = true := List.all_eq_true.mpr accepted
  simp only [findLimit, find_limitPattern unmentioned nonempty accepted stops, all, if_true]

end Limit

section Grouping

theorem findGroupBy_eq_none {text : List Char}
    (unmentioned : mentions "GROUP".toList text = false) : findGroupBy text = none := by
  have unfound : groupPattern.find text = none := findFrom_word_eq_none unmentioned none
  simp only [findGroupBy, unfound]

theorem findGroupBy_column {passed column rest : List Char}
    (unmentioned : mentions "GROUP".toList passed = false) (nonempty : column ≠ [])
    (accepted : ∀ c ∈ column, isWord c = true) (stops : Stops isWord rest) :
    findGroupBy
        (passed ++ ' ' :: ("GROUP".toList ++ ' ' :: ("BY".toList ++ ' ' :: (column ++ rest)))) =
      some (String.ofList column) := by
  have captured : groupPattern.find
      (passed ++ ' ' :: ("GROUP".toList ++ ' ' :: ("BY".toList ++ ' ' :: (column ++ rest)))) =
      some [column] := by
    have by_stops (rest : List Char) : Stops isBlank ("BY".toList ++ rest) :=
      stops_isBlank (by decide) (by decide) rest
    unfold find groupPattern
    rw [findFrom_word_passes (by decide) (by decide) unmentioned]
    apply findFrom_here
    rw [matchAt_word_self, matchAt_some1_single (by decide) (by_stops _),
      matchAt_word_self, matchAt_some1_single (by decide) (stops_isBlank nonempty accepted rest)]
    exact matchAt_capture nonempty accepted stops _ rfl
  simp only [findGroupBy, captured]

end Grouping

section Source

variable {passed table rest : List Char}

theorem stops_tableChar (nonempty : table ≠ []) (accepted : ∀ c ∈ table, isTableChar c = true)
    (rest : List Char) :
    Stops isBlank (table ++ rest) ∧ Stops (· == '"') (table ++ rest) := by
  cases table with
  | nil => exact absurd rfl nonempty
  | cons c table =>
    have first := accepted c List.mem_cons_self
    simp only [isTableChar, Bool.and_eq_true, Bool.not_eq_true', bne] at first
    obtain ⟨unquoted, unblank⟩ := first
    refine ⟨stops_cons unblank (table ++ rest), ?_⟩
    intro d member
    cases member
    exact unquoted

theorem isTableChar_of_unquoted (unquoted : '"' ∉ table)
    (unblank : ∀ c ∈ table, isBlank c = false) : ∀ c ∈ table, isTableChar c = true := by
  intro c member
  have notQuote : c ≠ '"' := fun same => unquoted (same ▸ member)
  simp [isTableChar, notQuote, unblank c member]

theorem findSource_bare (unmentioned : mentions "FROM".toList passed = false)
    (nonempty : table ≠ []) (accepted : ∀ c ∈ table, isTableChar c = true)
    (stops : Stops isTableChar rest) :
    findSource (passed ++ ' ' :: ("FROM".toList ++ ' ' :: (table ++ rest))) =
      some (String.ofList table) := by
  obtain ⟨unblank, unquoted⟩ := stops_tableChar nonempty accepted rest
  have captured : sourcePattern.find
      (passed ++ ' ' :: ("FROM".toList ++ ' ' :: (table ++ rest))) = some [table] := by
    unfold find sourcePattern
    rw [findFrom_word_passes (by decide) (by decide) unmentioned]
    apply findFrom_here
    rw [matchAt_word_self, matchAt_some1_single (by decide) unblank,
      matchAt_perhaps_stops unquoted]
    exact matchAt_capture nonempty accepted stops _ (matchAt_perhaps_found _ _)
  simp only [findSource, captured]

theorem findSource_quoted (unmentioned : mentions "FROM".toList passed = false)
    (nonempty : table ≠ []) (accepted : ∀ c ∈ table, isTableChar c = true) :
    findSource (passed ++ ' ' :: ("FROM".toList ++ ' ' :: '"' :: (table ++ '"' :: rest))) =
      some (String.ofList table) := by
  have captured : sourcePattern.find
      (passed ++ ' ' :: ("FROM".toList ++ ' ' :: '"' :: (table ++ '"' :: rest))) =
      some [table] := by
    unfold find sourcePattern
    rw [findFrom_word_passes (by decide) (by decide) unmentioned]
    apply findFrom_here
    rw [matchAt_word_self, matchAt_some1_single (by decide) (stops_cons (by decide) _)]
    exact matchAt_perhaps_cons (by decide) _ (matchAt_capture nonempty accepted
      (stops_cons (by decide) rest) _ (matchAt_perhaps_found _ _))
  simp only [findSource, captured]

end Source

section Where

def startsClause (text : List Char) : Bool :=
  startsWord "GROUP".toList text || startsWord "ORDER".toList text
    || startsWord "LIMIT".toList text

def mentionsClause (text : List Char) : Bool :=
  mentions "GROUP".toList text || mentions "ORDER".toList text || mentions "LIMIT".toList text

/-- No letter of these words agrees with the character. -/
def SeparatesClause (separator : Char) : Prop :=
  Separates separator "GROUP".toList ∧ Separates separator "ORDER".toList ∧
    Separates separator "LIMIT".toList

instance (separator : Char) : Decidable (SeparatesClause separator) :=
  inferInstanceAs (Decidable (_ ∧ _ ∧ _))

/-- The part of a text before the first such word. -/
def untilClause : List Char → List Char
  | [] => []
  | c :: rest => if startsClause (c :: rest) then [] else c :: untilClause rest

theorem mentionsClause_cons (c : Char) (rest : List Char) :
    mentionsClause (c :: rest) = (startsClause (c :: rest) || mentionsClause rest) := by
  simp only [mentionsClause, startsClause, mentions]
  ac_rfl

theorem startsClause_append_cons {separator : Char} (separates : SeparatesClause separator)
    (text rest : List Char) :
    startsClause (text ++ separator :: rest) = startsClause text := by
  obtain ⟨group, order, limit⟩ := separates
  simp only [startsClause, startsWord_append_cons group, startsWord_append_cons order,
    startsWord_append_cons limit]

theorem untilClause_append_cons {separator : Char} (separates : SeparatesClause separator)
    (text rest : List Char) :
    untilClause (text ++ separator :: rest) =
      if mentionsClause text then untilClause text else text ++ separator :: untilClause rest := by
  have starts := startsClause_append_cons separates
  induction text with
  | nil =>
    have unstarted : startsClause (separator :: rest) = false := starts [] rest
    simp only [List.nil_append, untilClause, unstarted]
    rfl
  | cons c text ih =>
    have here := starts (c :: text) rest
    rw [List.cons_append] at here ⊢
    simp only [untilClause, here, mentionsClause_cons, ih]
    by_cases started : startsClause (c :: text) = true
    · simp [started]
    · simp only [Bool.not_eq_true] at started
      simp only [started, Bool.false_eq_true, if_false, Bool.false_or]
      split <;> rfl

theorem exists_startsClause {text : List Char} (mentioned : mentionsClause text = true) :
    ∃ rest, text = untilClause text ++ rest ∧ startsClause rest = true := by
  induction text with
  | nil => cases mentioned
  | cons c text ih =>
    by_cases started : startsClause (c :: text) = true
    · exact ⟨c :: text, by simp only [untilClause, started, if_true, List.nil_append], started⟩
    · simp only [Bool.not_eq_true] at started
      rw [mentionsClause_cons, started, Bool.false_or] at mentioned
      obtain ⟨rest, split, starts⟩ := ih mentioned
      refine ⟨rest, ?_, starts⟩
      simp [untilClause, started, ← split]

def whereEnd : Pattern :=
  .closes <| .either (.word "GROUP".toList .found) <| .either (.word "ORDER".toList .found) <|
    .either (.word "LIMIT".toList .found) <| .textEnd .found

theorem matchAt_either_word (letters : List Char) (second : Pattern) (opened : List Char)
    (before : Option Char) (rest : List Char) :
    (either (word letters found) second).matchAt opened ⟨before, rest⟩ =
      if startsWord letters rest then some [] else second.matchAt opened ⟨before, rest⟩ := by
  simp only [matchAt, matchAt_word]
  by_cases starts : startsWord letters rest = true
  · simp [starts]
  · simp [starts]

theorem matchAt_whereEnd (passed rest : List Char) (before : Option Char) :
    whereEnd.matchAt (passed ++ rest) ⟨before, rest⟩ =
      if startsClause rest || rest.isEmpty then some [passed] else none := by
  unfold whereEnd startsClause
  rw [matchAt_closes, matchAt_either_word, matchAt_either_word, matchAt_either_word]
  by_cases group : startsWord "GROUP".toList rest = true
  · simp only [group, if_true, Bool.true_or, Option.map_some]
  · by_cases order : startsWord "ORDER".toList rest = true
    · simp only [group, order, if_true, if_false, Bool.or_true, Bool.true_or, Option.map_some,
        Bool.false_eq_true]
    · by_cases limit : startsWord "LIMIT".toList rest = true
      · simp only [group, order, limit, if_true, if_false, Bool.or_true, Bool.true_or,
          Option.map_some, Bool.false_eq_true]
      · simp only [group, order, limit, if_false, Bool.or_false, Bool.false_or, matchAt,
          Bool.false_eq_true]
        split <;> rfl

theorem fewestThen_whereEnd (passed text : List Char) (before : Option Char) :
    fewestThen anyChar (whereEnd.matchAt (passed ++ text)) before text =
      some [passed ++ untilClause text] := by
  -- What has been passed grows with each step, while the opening of the capture stays.
  induction text generalizing passed before with
  | nil =>
    rw [fewestThen, matchAt_whereEnd]
    simp [untilClause]
  | cons c text ih =>
    rw [fewestThen, matchAt_whereEnd]
    by_cases started : startsClause (c :: text) = true
    · simp [started, untilClause]
    · simp only [Bool.not_eq_true] at started
      have later := ih (passed ++ [c]) (some c)
      rw [List.append_assoc, List.singleton_append] at later
      simp only [started, List.isEmpty_cons, Bool.or_false, Bool.false_eq_true, if_false, later,
        anyChar, if_true, untilClause, List.append_assoc, List.singleton_append]

/-- The clause behind the first WHERE goes up to the next clause behind its first character. -/
theorem find_wherePattern {passed : List Char}
    (unmentioned : mentions "WHERE".toList passed = false) {first : Char}
    (unblank : isBlank first = false) (text : List Char) :
    wherePattern.find (passed ++ ' ' :: ("WHERE".toList ++ ' ' :: first :: text)) =
      some [first :: untilClause text] := by
  unfold find wherePattern
  rw [findFrom_word_passes (by decide) (by decide) unmentioned]
  apply findFrom_here
  rw [matchAt_word_self, matchAt_some1_single (by decide) (stops_cons unblank text)]
  exact fewestThen_whereEnd [first] text (some first)

theorem findCondition_eq_none {text : List Char}
    (unmentioned : mentions "WHERE".toList text = false) : findCondition text = none := by
  have unfound : wherePattern.find text = none := findFrom_word_eq_none unmentioned none
  simp only [findCondition, unfound]

end Where

end Tabular.Sql
