import Tabular.Proofs.Sql.Comparison

/-! What blanks at the end of a clause change.

They change no comparison that has its value, since a value is trimmed. But a comparison that
stops behind its operators, or behind a quote that opens nothing, takes the blanks for its value;
without them it is no comparison, unless it has a second operator to take for one.
-/

set_option autoImplicit false

namespace Tabular.Sql

open Text
open Text.Pattern

/-- The text is over, or it is over behind a quote. -/
def lacksOperand : List Char → Bool
  | [] => true
  | [c] => isQuote c
  | _ => false

/-- The operators at the front of a text where a value is missing behind them. -/
def openTest? : List Char → Option (List Char)
  | [] => none
  | c :: rest =>
    if isOperatorChar c then
      if lacksOperand rest then some [c] else (openTest? rest).map (c :: ·)
    else none

def openComparison? (text : List Char) : Option (List Char) :=
  if text.takeWhile isWord = [] then none else openTest? (behindName text)

def openClause? : List Char → Option (List Char)
  | [] => none
  | c :: rest =>
    match openComparison? (c :: rest) with
    | some operators => some operators
    | none => if (comparisonOf (c :: rest)).isSome then none else openClause? rest

/-- How a comparison without a value is read with blanks behind it and without them: with an
empty value, or else not at all, or with its last operator for the value. -/
inductive ReadsApart : (operators : List Char) → (spaced tight : Option Condition) → Prop where
  | single (column : String) {operator : Char} (operates : isOperatorChar operator = true) :
    ReadsApart [operator] (some ⟨column, String.ofList [operator], ""⟩) none
  | several (column : String) {first last : Char} {others : List Char}
    (operate : ∀ c ∈ first :: others ++ [last], isOperatorChar c = true) :
    ReadsApart (first :: others ++ [last])
      (some ⟨column, String.ofList (first :: others ++ [last]), ""⟩)
      (some ⟨column, String.ofList (first :: others), String.ofList [last]⟩)

theorem ReadsApart.tight_eq_none {operator : Char} {spaced tight : Option Condition}
    (apart : ReadsApart [operator] spaced tight) : tight = none := by
  generalize same : [operator] = operators at apart
  cases apart with
  | single => rfl
  | several => simp at same

theorem ReadsApart.or {operators : List Char} {spaced tight : Option Condition}
    (apart : ReadsApart operators spaced tight) (spacedRest tightRest : Option Condition)
    (nothing : ∀ operator, operators = [operator] → tightRest = none) :
    ReadsApart operators (spaced.or spacedRest) (tight.or tightRest) := by
  cases apart with
  | single column operates =>
    rw [nothing _ rfl]
    exact .single column operates
  | several column operate => exact .several column operate

def EndsUnblank (text : List Char) : Prop := ∀ c ∈ text.getLast?, isBlank c = false

theorem EndsUnblank.of_suffix {text left : List Char} (ends : EndsUnblank text)
    (suffix : left <:+ text) : EndsUnblank left := by
  obtain ⟨front, rfl⟩ := suffix
  intro c last
  refine ends c ?_
  rw [List.getLast?_append, Option.mem_def.mp last]
  rfl

theorem EndsUnblank.tail {c : Char} {rest : List Char} (ends : EndsUnblank (c :: rest)) :
    EndsUnblank rest :=
  ends.of_suffix (List.suffix_cons c rest)

variable {text trail operators : List Char}

section Blanks

theorem stops_isWord_of_blank (blank : Blank trail) : Stops isWord trail :=
  fun c member => isWord_eq_false_of_isBlank (blank c (List.mem_of_mem_head? member))

theorem takeWhile_append_stops {accepts : Char → Bool} (stops : Stops accepts trail)
    (text : List Char) : (text ++ trail).takeWhile accepts = text.takeWhile accepts := by
  obtain ⟨run, rest, rfl, accepted, stopsRun⟩ := exists_run accepts text
  rw [takeWhile_run accepted stopsRun, List.append_assoc]
  refine takeWhile_run accepted ?_
  cases rest with
  | nil => exact stops
  | cons c rest => exact stops_cons stopsRun.head _

theorem dropWhile_append_stops {accepts : Char → Bool} (stops : Stops accepts trail)
    (text : List Char) : (text ++ trail).dropWhile accepts = text.dropWhile accepts ++ trail := by
  obtain ⟨run, rest, rfl, accepted, stopsRun⟩ := exists_run accepts text
  rw [dropWhile_run accepted stopsRun, List.append_assoc]
  refine dropWhile_run accepted ?_
  cases rest with
  | nil => exact stops
  | cons c rest => exact stops_cons stopsRun.head _

theorem dropWhile_append_blank (blank : Blank trail) (text : List Char) :
    (text ++ trail).dropWhile isBlank =
      if text.dropWhile isBlank = [] then [] else text.dropWhile isBlank ++ trail := by
  rw [List.dropWhile_append, blank.dropWhile_eq_nil]
  simp only [List.isEmpty_iff]

theorem behindName_append (blank : Blank trail) (text : List Char) :
    behindName (text ++ trail) = if behindName text = [] then [] else behindName text ++ trail := by
  rw [behindName, dropWhile_append_stops (stops_isWord_of_blank blank),
    dropWhile_append_blank blank]
  rfl

theorem behindName_suffix (text : List Char) : behindName text <:+ text :=
  (List.dropWhile_suffix _).trans (List.dropWhile_suffix _)

theorem takeWhile_unquoted_append (blank : Blank trail) (nonempty : text ≠ []) :
    ((text ++ trail).takeWhile isUnquoted = [] ↔ text.takeWhile isUnquoted = []) ∧
      trimChars ((text ++ trail).takeWhile isUnquoted) =
        trimChars (text.takeWhile isUnquoted) := by
  obtain ⟨run, rest, rfl, accepted, stops⟩ := exists_run isUnquoted text
  rw [takeWhile_run accepted stops]
  cases rest with
  | nil =>
    rw [List.append_nil] at nonempty ⊢
    have unquoted : ∀ c ∈ run ++ trail, isUnquoted c = true := by
      intro c member
      rcases List.mem_append.mp member with inRun | inTrail
      · exact accepted c inRun
      · exact isUnquoted_of_isBlank (blank c inTrail)
    rw [List.takeWhile_eq_self_iff.mpr unquoted]
    exact ⟨by simp [nonempty], trimChars_append_blank blank run⟩
  | cons c rest =>
    rw [List.append_assoc, List.cons_append, takeWhile_run accepted (stops_cons stops.head _)]
    exact ⟨Iff.rfl, rfl⟩

end Blanks

section Operand

theorem operandOf_blank (blank : Blank trail) (present : trail ≠ []) :
    ∃ value, operandOf trail = some value ∧ trimChars value = [] := by
  induction trail with
  | nil => exact absurd rfl present
  | cons c trail ih =>
    obtain ⟨first, others⟩ := List.forall_mem_cons.mp blank
    rw [operandOf, if_pos first]
    cases found : operandOf trail with
    | none => exact ⟨[c], rfl, by simp [trimChars, first]⟩
    | some value =>
      have present : trail ≠ [] := by
        rintro rfl
        cases found
      obtain ⟨other, same, trims⟩ := ih others present
      exact ⟨value, rfl, Option.some.inj (found.symm.trans same) ▸ trims⟩

theorem isBlank_eq_false_of_isQuote {c : Char} (quote : isQuote c = true) : isBlank c = false := by
  rw [← Bool.not_eq_true]
  intro blank
  have unquoted := isUnquoted_of_isBlank blank
  rw [isUnquoted, quote] at unquoted
  cases unquoted

theorem trimChars_blank (blank : Blank trail) : trimChars trail = [] := by
  rw [trimChars, blank.dropWhile_eq_nil]
  rfl

theorem operandOf_of_lacksOperand (lacks : lacksOperand text = true) : operandOf text = none := by
  cases text with
  | nil => rfl
  | cons c rest =>
    cases rest with
    | cons d rest => cases lacks
    | nil =>
      have quote : isQuote c = true := lacks
      rw [operandOf, isBlank_eq_false_of_isQuote quote, if_neg Bool.false_ne_true, literalOf,
        if_pos quote]
      rfl

theorem operandOf_append_of_lacksOperand (lacks : lacksOperand text = true) (blank : Blank trail)
    (present : trail ≠ []) :
    ∃ value, operandOf (text ++ trail) = some value ∧ trimChars value = [] := by
  cases text with
  | nil => exact operandOf_blank blank present
  | cons c rest =>
    cases rest with
    | cons d rest => cases lacks
    | nil =>
      have quote : isQuote c = true := lacks
      have unquoted : trail.takeWhile isUnquoted = trail :=
        List.takeWhile_eq_self_iff.mpr fun c member => isUnquoted_of_isBlank (blank c member)
      refine ⟨trail, ?_, trimChars_blank blank⟩
      rw [List.singleton_append, operandOf, isBlank_eq_false_of_isQuote quote,
        if_neg Bool.false_ne_true, literalOf, if_pos quote, unquoted, if_neg present]

theorem operandOf_append (filled : lacksOperand text = false) (ends : EndsUnblank text)
    (blank : Blank trail) (present : trail ≠ []) :
    (operandOf (text ++ trail)).map trimChars = (operandOf text).map trimChars := by
  induction text with
  | nil => cases filled
  | cons c rest ih =>
    rw [List.cons_append, operandOf, operandOf]
    by_cases blankHere : isBlank c = true
    · rw [if_pos blankHere, if_pos blankHere, Option.map_or, Option.map_or]
      by_cases lacks : lacksOperand rest = true
      · -- The blank before the quote was the value, and those behind it take its place.
        obtain ⟨value, found, trims⟩ := operandOf_append_of_lacksOperand lacks blank present
        have trimsHere : trimChars [c] = [] :=
          trimChars_blank (List.forall_mem_singleton.mpr blankHere)
        rw [found, operandOf_of_lacksOperand lacks, Option.map_some, Option.map_some, trims,
          trimsHere]
        rfl
      · rw [ih (Bool.not_eq_true _ ▸ lacks) ends.tail]
    · rw [if_neg blankHere, if_neg blankHere]
      have trims : (literalOf (c :: (rest ++ trail)) = [] ↔ literalOf (c :: rest) = []) ∧
          trimChars (literalOf (c :: (rest ++ trail))) = trimChars (literalOf (c :: rest)) := by
        rw [literalOf, literalOf]
        by_cases quote : isQuote c = true
        · have nonempty : rest ≠ [] := by
            rintro rfl
            rw [lacksOperand, quote] at filled
            cases filled
          rw [if_pos quote, if_pos quote]
          exact takeWhile_unquoted_append blank nonempty
        · rw [if_neg quote, if_neg quote, ← List.cons_append]
          exact takeWhile_unquoted_append blank (List.cons_ne_nil c rest)
      simp only [trims.1]
      split
      · rfl
      · rw [Option.map_some, Option.map_some, trims.2]

end Operand

section Test

theorem testOf_eq_none {c : Char} (idle : isOperatorChar c = false) (rest : List Char) :
    testOf (c :: rest) = none := by
  rw [testOf, if_neg (Bool.not_eq_true _ ▸ idle)]

theorem isOperatorChar_eq_false_of_isBlank {c : Char} (blank : isBlank c = true) :
    isOperatorChar c = false := by
  rw [← Bool.not_eq_true]
  intro operates
  rw [isBlank_eq_false_of_isOperatorChar operates] at blank
  cases blank

theorem isOperatorChar_eq_false_of_isQuote {c : Char} (quote : isQuote c = true) :
    isOperatorChar c = false := by
  rcases isQuote_cases quote with rfl | rfl <;> decide

theorem testOf_blank (blank : Blank trail) : testOf trail = none := by
  cases trail with
  | nil => rfl
  | cons c trail =>
    exact testOf_eq_none (isOperatorChar_eq_false_of_isBlank (blank c List.mem_cons_self)) trail

theorem testOf_append_of_lacksOperand (lacks : lacksOperand text = true) (blank : Blank trail) :
    testOf (text ++ trail) = none := by
  cases text with
  | nil => exact testOf_blank blank
  | cons c rest =>
    cases rest with
    | cons d rest => cases lacks
    | nil => exact testOf_eq_none (isOperatorChar_eq_false_of_isQuote lacks) trail

theorem testOf_append_of_openTest? (missing : openTest? text = some operators)
    (blank : Blank trail) (present : trail ≠ []) :
    ∃ value, testOf (text ++ trail) = some (operators, value) ∧ trimChars value = [] := by
  induction text generalizing operators with
  | nil => cases missing
  | cons c rest ih =>
    rw [openTest?] at missing
    split at missing
    · rename_i operates
      rw [List.cons_append, testOf, if_pos operates]
      split at missing
      · rename_i lacks
        obtain ⟨value, found, trims⟩ := operandOf_append_of_lacksOperand lacks blank present
        rw [testOf_append_of_lacksOperand lacks blank, found, ← Option.some.inj missing]
        exact ⟨value, rfl, trims⟩
      · obtain ⟨others, later, rfl⟩ := Option.map_eq_some_iff.mp missing
        obtain ⟨value, found, trims⟩ := ih later
        rw [found]
        exact ⟨value, rfl, trims⟩
    · cases missing

/-- Without blanks the last of the operators is the value of the others, if there are others. -/
theorem testOf_of_openTest? (missing : openTest? text = some operators) :
    ∃ init last, operators = init ++ [last] ∧ (∀ c ∈ operators, isOperatorChar c = true) ∧
      (testOf text = if init = [] then none else some (init, [last])) ∧
      (init = [] → operandOf text = some [last]) := by
  induction text generalizing operators with
  | nil => cases missing
  | cons c rest ih =>
    rw [openTest?] at missing
    split at missing
    · rename_i operates
      rw [testOf, if_pos operates]
      split at missing
      · rename_i lacks
        have bare := operandOf_of_lacksOperand lacks
        have idle : testOf rest = none := by
          have padded := testOf_append_of_lacksOperand lacks (List.forall_mem_nil _)
          rwa [List.append_nil] at padded
        have value : literalOf (c :: rest) = [c] :=
          literalOf_cons_of_operandOf (isUnquoted_of_isOperatorChar operates) bare
        rw [← Option.some.inj missing]
        refine ⟨[], c, rfl, List.forall_mem_singleton.mpr operates, ?_, fun _ => ?_⟩
        · rw [idle, bare, if_pos rfl]
          rfl
        · rw [operandOf, isBlank_eq_false_of_isOperatorChar operates, if_neg Bool.false_ne_true,
            value, if_neg (List.cons_ne_nil c [])]
      · obtain ⟨others, later, rfl⟩ := Option.map_eq_some_iff.mp missing
        obtain ⟨init, last, rfl, operate, test, value⟩ := ih later
        refine ⟨c :: init, last, rfl, List.forall_mem_cons.mpr ⟨operates, operate⟩, ?_,
          fun empty => absurd empty (List.cons_ne_nil c init)⟩
        rw [if_neg (List.cons_ne_nil c init), test]
        by_cases single : init = []
        · rw [if_pos single, value single, single]
          rfl
        · rw [if_neg single]
          rfl
    · cases missing

theorem testOf_append (finished : openTest? text = none) (ends : EndsUnblank text)
    (blank : Blank trail) (present : trail ≠ []) :
    (testOf (text ++ trail)).map (Prod.map id trimChars) =
      (testOf text).map (Prod.map id trimChars) := by
  induction text with
  | nil => rw [List.nil_append, testOf_blank blank, testOf]
  | cons c rest ih =>
    rw [openTest?] at finished
    rw [List.cons_append, testOf, testOf]
    split
    · rename_i operates
      rw [if_pos operates] at finished
      split at finished
      · cases finished
      · rename_i filled
        have later := ih (Option.map_eq_none_iff.mp finished) ends.tail
        have operand := operandOf_append (Bool.not_eq_true _ ▸ filled) ends.tail blank present
        have trimmed (test : Option (List Char × List Char)) (value : Option (List Char)) :
            ((test.map fun test => (c :: test.1, test.2)).or
                (value.map fun value => ([c], value))).map (Prod.map id trimChars) =
              ((test.map (Prod.map id trimChars)).map fun test => (c :: test.1, test.2)).or
                ((value.map trimChars).map fun value => ([c], value)) := by
          cases test <;> cases value <;> rfl
        rw [trimmed, trimmed, later, operand]
    · rfl

end Test

section Comparison

theorem trimChars_operator {operator : Char} (operates : isOperatorChar operator = true) :
    trimChars [operator] = [operator] :=
  trimChars_of_unblank (List.forall_mem_singleton.mpr (isBlank_eq_false_of_isOperatorChar operates))

theorem comparisonOf_readsApart (missing : openComparison? text = some operators)
    (blank : Blank trail) (present : trail ≠ []) :
    ReadsApart operators ((comparisonOf (text ++ trail)).map ComparisonParts.condition)
      ((comparisonOf text).map ComparisonParts.condition) := by
  rw [openComparison?] at missing
  split at missing
  · cases missing
  · rename_i named
    have nonempty : behindName text ≠ [] := by
      intro empty
      rw [empty] at missing
      cases missing
    obtain ⟨value, spaced, trims⟩ := testOf_append_of_openTest? missing blank present
    obtain ⟨init, last, rfl, operate, tight, -⟩ := testOf_of_openTest? missing
    have lastOperates := operate last (List.mem_append_right init List.mem_cons_self)
    rw [comparisonOf, comparisonOf, takeWhile_append_stops (stops_isWord_of_blank blank),
      behindName_append blank, if_neg nonempty, if_neg named, if_neg named, spaced, tight]
    simp only [Option.map_some, ComparisonParts.condition, trims]
    cases init with
    | nil => exact .single _ lastOperates
    | cons first others =>
      simp only [if_neg (List.cons_ne_nil first others), Option.map_some,
        ComparisonParts.condition, trimChars_operator lastOperates]
      exact .several _ operate

theorem comparisonOf_append (finished : openComparison? text = none) (ends : EndsUnblank text)
    (blank : Blank trail) (present : trail ≠ []) :
    (comparisonOf (text ++ trail)).map ComparisonParts.condition =
      (comparisonOf text).map ComparisonParts.condition := by
  rw [openComparison?] at finished
  rw [comparisonOf, comparisonOf, takeWhile_append_stops (stops_isWord_of_blank blank),
    behindName_append blank]
  split
  · rfl
  · rename_i named
    rw [if_neg named] at finished
    split
    · rename_i ended
      rw [ended]
    · have same := testOf_append finished (ends.of_suffix (behindName_suffix text)) blank present
      have condition (name : List Char) (test : Option (List Char × List Char)) :
          (test.map fun test => (⟨name, test.1, test.2⟩ : ComparisonParts)).map
              ComparisonParts.condition =
            (test.map (Prod.map id trimChars)).map fun test =>
              ⟨String.ofList name, String.ofList test.1, String.ofList test.2⟩ := by
        cases test <;> rfl
      rw [condition, condition, same]

end Comparison

section Clause

theorem firstComparison_of_wordless (wordless : ∀ c ∈ text, isWord c = false) :
    firstComparison text = none := by
  induction text with
  | nil => rfl
  | cons c rest ih =>
    obtain ⟨first, others⟩ := List.forall_mem_cons.mp wordless
    have unnamed : (c :: rest).takeWhile isWord = [] :=
      List.takeWhile_cons_of_neg (by rw [first]; exact Bool.false_ne_true)
    rw [firstComparison, comparisonOf, if_pos unnamed, ih others]
    rfl

theorem wordless_of_openTest? (missing : openTest? text = some operators) :
    ∀ c ∈ text, isWord c = false := by
  induction text generalizing operators with
  | nil => cases missing
  | cons c rest ih =>
    rw [openTest?] at missing
    split at missing
    · rename_i operates
      refine List.forall_mem_cons.mpr ⟨isWord_eq_false_of_isOperatorChar operates, ?_⟩
      split at missing
      · rename_i lacks
        cases rest with
        | nil => exact List.forall_mem_nil _
        | cons d rest =>
          cases rest with
          | cons e rest => cases lacks
          | nil =>
            refine List.forall_mem_singleton.mpr ?_
            rcases isQuote_cases lacks with rfl | rfl <;> decide
      · obtain ⟨others, later, -⟩ := Option.map_eq_some_iff.mp missing
        exact ih later
    · cases missing

/-- A name with one operator and no value is no comparison, and neither is an end of it. -/
theorem firstComparison_of_single {operator : Char}
    (missing : openComparison? text = some [operator]) : firstComparison text = none := by
  have here {text : List Char} (missing : openComparison? text = some [operator]) :
      comparisonOf text = none := by
    have blank : Blank [' '] := List.forall_mem_singleton.mpr (by decide)
    have apart := comparisonOf_readsApart missing blank (List.cons_ne_nil ' ' [])
    exact Option.map_eq_none_iff.mp apart.tight_eq_none
  induction text with
  | nil => rfl
  | cons c rest ih =>
    rw [firstComparison, here missing, Option.none_or]
    rw [openComparison?] at missing
    split at missing
    · cases missing
    · rename_i named
      have wordChar : isWord c = true := by
        by_contra other
        exact named (List.takeWhile_cons_of_neg other)
      have behind : behindName (c :: rest) = behindName rest := by
        rw [behindName, List.dropWhile_cons_of_pos wordChar, behindName]
      rw [behind] at missing
      by_cases ended : rest.takeWhile isWord = []
      · -- Behind the name stand blanks, the operator and at most a quote.
        have whole : rest.dropWhile isWord = rest := by
          have split := List.takeWhile_append_dropWhile (p := isWord) (l := rest)
          rwa [ended, List.nil_append] at split
        rw [behindName, whole] at missing
        apply firstComparison_of_wordless
        rw [← List.takeWhile_append_dropWhile (p := isBlank) (l := rest)]
        intro d member
        rcases List.mem_append.mp member with inBlanks | inTest
        · exact isWord_eq_false_of_isBlank (blank_takeWhile rest d inBlanks)
        · exact wordless_of_openTest? missing d inTest
      · apply ih
        rw [openComparison?, if_neg ended, missing]

/-- A comparison whose value is missing is the last one of its clause, and is read apart. -/
theorem firstComparison_readsApart (missing : openClause? text = some operators)
    (ends : EndsUnblank text) (blank : Blank trail) (present : trail ≠ []) :
    ReadsApart operators ((firstComparison (text ++ trail)).map ComparisonParts.condition)
      ((firstComparison text).map ComparisonParts.condition) := by
  induction text with
  | nil => cases missing
  | cons c rest ih =>
    rw [openClause?] at missing
    split at missing
    · rename_i others here
      obtain rfl := Option.some.inj missing
      have apart := comparisonOf_readsApart here blank present
      rw [List.cons_append] at apart ⊢
      rw [firstComparison, firstComparison, Option.map_or, Option.map_or]
      refine apart.or _ _ fun operator single => ?_
      rw [single] at here
      have nowhere := firstComparison_of_single here
      rw [firstComparison, Option.or_eq_none_iff] at nowhere
      rw [nowhere.2]
      rfl
    · rename_i here
      split at missing
      · cases missing
      · rename_i unfound
        have same := comparisonOf_append here ends blank present
        rw [Option.not_isSome_iff_eq_none.mp unfound] at same
        rw [List.cons_append] at same ⊢
        rw [firstComparison, firstComparison, Option.map_eq_none_iff.mp same,
          Option.not_isSome_iff_eq_none.mp unfound, Option.none_or, Option.none_or]
        exact ih missing ends.tail

theorem firstComparison_append (finished : openClause? text = none) (ends : EndsUnblank text)
    (blank : Blank trail) (present : trail ≠ []) :
    (firstComparison (text ++ trail)).map ComparisonParts.condition =
      (firstComparison text).map ComparisonParts.condition := by
  induction text with
  | nil =>
    rw [List.nil_append,
      firstComparison_of_wordless fun c member => isWord_eq_false_of_isBlank (blank c member)]
    rfl
  | cons c rest ih =>
    rw [openClause?] at finished
    split at finished
    · cases finished
    · rename_i here
      have same := comparisonOf_append here ends blank present
      rw [List.cons_append] at same ⊢
      rw [firstComparison, firstComparison, Option.map_or, Option.map_or, same]
      split at finished
      · rename_i found
        obtain ⟨comparison, compares⟩ := Option.isSome_iff_exists.mp found
        rw [compares]
        rfl
      · rw [ih finished ends.tail]

end Clause

end Tabular.Sql
