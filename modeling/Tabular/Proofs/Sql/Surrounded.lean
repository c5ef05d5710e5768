import Tabular.Proofs.Sql.Unfinished

/-! What the blanks around a statement change.

No clause is found elsewhere, or is read otherwise, for blanks before a statement. Blanks behind it
change the condition alone, and only when the statement ends in a comparison without a value.
-/

set_option autoImplicit false

namespace Tabular.Sql

open Text
open Text.Pattern

variable {text lead trail operators : List Char}

section Where

def clauseOf : List Char → List Char
  | [] => []
  | first :: rest => first :: untilClause rest

/-- What stands behind the first WHERE with blanks after it, and behind these. -/
def behindWhere : List Char → List Char
  | [] => []
  | c :: rest =>
    if startsWord "WHERE".toList (c :: rest) && ((c :: rest).drop 5).head?.any isBlank then
      ((c :: rest).drop 5).dropWhile isBlank
    else behindWhere rest

def clausePattern : Pattern := .opens <| .one anyChar <| .fewest anyChar whereEnd

theorem matchAt_clausePattern (text opened : List Char) (before : Option Char) :
    clausePattern.matchAt opened ⟨before, text⟩ =
      if text = [] then none else some [clauseOf text] := by
  cases text with
  | nil => rfl
  | cons first rest => exact fewestThen_whereEnd [first] rest (some first)

theorem blank_clauseOf (blank : Blank text) : Blank (clauseOf text) := by
  cases text with
  | nil => exact blank
  | cons first rest =>
    obtain ⟨firstBlank, others⟩ := List.forall_mem_cons.mp blank
    exact List.forall_mem_cons.mpr ⟨firstBlank, fun c member => others c (mem_untilClause member)⟩

theorem exists_blank_clause {captures : List (List Char)} {before : Option Char}
    (blank : Blank text)
    (matched : (some1 isBlank clausePattern).matchAt [] ⟨before, text⟩ = some captures) :
    ∃ clause, captures = [clause] ∧ firstComparison clause = none := by
  obtain ⟨c, rest, rfl, -, matched⟩ := matchAt_one_iff.mp matched
  obtain ⟨run, left, rfl, -, matched⟩ := exists_run_of_mostThen matched
  rw [matchAt_clausePattern] at matched
  split at matched
  · cases matched
  · refine ⟨clauseOf left, (Option.some.inj matched).symm, firstComparison_of_wordless ?_⟩
    have blankLeft : Blank left :=
      blank.of_suffix ((List.suffix_append run left).trans (List.suffix_cons c _))
    exact fun c member => isWord_eq_false_of_isBlank (blank_clauseOf blankLeft c member)

theorem unblank_where : ∀ letter ∈ "WHERE".toList, isBlank letter = false := by decide

theorem behindWhere_of_unmentioned (unmentioned : mentions "WHERE".toList text = false) :
    behindWhere text = [] := by
  induction text with
  | nil => rfl
  | cons c rest ih =>
    rw [behindWhere, startsWord_of_mentions_false unmentioned, Bool.false_and,
      if_neg Bool.false_ne_true]
    exact ih (mentions_tail unmentioned)

theorem unmentioned_behind {c : Char} {rest : List Char} (blank : Blank ((c :: rest).drop 5)) :
    mentions "WHERE".toList rest = false := by
  have split : rest = rest.take 4 ++ (c :: rest).drop 5 := (List.take_append_drop 4 rest).symm
  have short : (rest.take 4).length < "WHERE".toList.length :=
    Nat.lt_of_le_of_lt (List.length_take_le 4 rest) (by decide)
  rw [split, mentions_append_blank (by decide) unblank_where blank]
  exact mentions_of_length_lt short

theorem behindWhere_cons {c : Char} {rest blanks behind : List Char}
    (parts : (c :: rest).drop 5 = blanks ++ behind) (blank : Blank blanks)
    (stops : Stops isBlank behind) :
    behindWhere (c :: rest) =
      if startsWord "WHERE".toList (c :: rest) ∧ blanks ≠ [] then behind else behindWhere rest := by
  have spaced : (blanks ++ behind).head?.any isBlank = true ↔ blanks ≠ [] := by
    cases blanks with
    | nil =>
      cases behind with
      | nil => simp
      | cons d behind => simp [stops.head]
    | cons d blanks => simp [blank d]
  rw [behindWhere, parts, dropWhile_run blank stops]
  simp only [Bool.and_eq_true, spaced]

/-- The search for WHERE finds a clause with the first comparison that there is behind it. -/
theorem findFrom_wherePattern (text : List Char) (before : Option Char) :
    (∃ clause, wherePattern.findFrom before text = some [clause] ∧
      firstComparison clause = firstComparison (clauseOf (behindWhere text))) ∨
    (wherePattern.findFrom before text = none ∧
      firstComparison (clauseOf (behindWhere text)) = none) := by
  induction text generalizing before with
  | nil => exact .inr ⟨rfl, rfl⟩
  | cons c rest ih =>
    obtain ⟨blanks, behind, parts, blank, stops⟩ := exists_run isBlank ((c :: rest).drop 5)
    have match_eq : wherePattern.matchAt [] ⟨before, c :: rest⟩ =
        if startsWord "WHERE".toList (c :: rest) then
          (some1 isBlank clausePattern).matchAt []
            ⟨charBehind before ((c :: rest).take 5), (c :: rest).drop 5⟩
        else none :=
      matchAt_word "WHERE".toList (some1 isBlank clausePattern) [] before (c :: rest)
    rw [behindWhere_cons parts blank stops]
    by_cases here : startsWord "WHERE".toList (c :: rest) = true ∧ blanks ≠ []
    · obtain ⟨starts, spaced⟩ := here
      rw [if_pos ⟨starts, spaced⟩]
      rw [if_pos starts, parts] at match_eq
      cases behind with
      | cons first others =>
        have matched := matchAt_clausePattern (first :: others) []
        rw [matchAt_some1_run spaced blank stops _ (matched _)] at match_eq
        exact .inl ⟨_, findFrom_here before match_eq, rfl⟩
      | nil =>
        rw [List.append_nil] at parts match_eq
        cases matched : wherePattern.matchAt [] ⟨before, c :: rest⟩ with
        | some captures =>
          obtain ⟨clause, rfl, nothing⟩ := exists_blank_clause blank (match_eq.symm.trans matched)
          exact .inl ⟨clause, findFrom_here before matched, nothing⟩
        | none =>
          have unmentioned := unmentioned_behind (parts ▸ blank)
          refine .inr ⟨?_, rfl⟩
          rw [findFrom, matched]
          exact findFrom_word_eq_none unmentioned (some c)
    · have unmatched : wherePattern.matchAt [] ⟨before, c :: rest⟩ = none := by
        rw [match_eq, parts]
        split
        · rename_i starts
          have unspaced : blanks = [] := by
            by_contra spaced
            exact here ⟨starts, spaced⟩
          rw [unspaced]
          exact matchAt_some1_eq_none stops _
        · rfl
      rw [if_neg here, findFrom, unmatched]
      exact ih (some c)

theorem findCondition_eq (text : List Char) :
    findCondition text =
      (firstComparison (clauseOf (behindWhere text))).map ComparisonParts.condition := by
  rcases findFrom_wherePattern text none with ⟨clause, found, same⟩ | ⟨unfound, nothing⟩
  · rw [findCondition_clause found, same]
  · have nowhere : wherePattern.find text = none := unfound
    simp only [findCondition, nowhere, nothing, Option.map_none]

theorem behindWhere_suffix (text : List Char) : behindWhere text <:+ text := by
  induction text with
  | nil => exact List.suffix_refl []
  | cons c rest ih =>
    rw [behindWhere]
    split
    · exact (List.dropWhile_suffix _).trans (List.drop_suffix _ _)
    · exact ih.trans (List.suffix_cons c rest)

/-- Blanks behind a statement stand behind WHERE if anything else does. -/
theorem behindWhere_append (blank : Blank trail) (text : List Char) :
    behindWhere (text ++ trail) =
      if behindWhere text = [] then [] else behindWhere text ++ trail := by
  have alone {text : List Char} (unmentioned : mentions "WHERE".toList text = false) :
      behindWhere (text ++ trail) = [] :=
    behindWhere_of_unmentioned
      ((mentions_append_blank (by decide) unblank_where blank text).trans unmentioned)
  induction text with
  | nil => exact alone rfl
  | cons c rest ih =>
    have starts_eq := startsWord_append_blank unblank_where blank (c :: rest)
    by_cases starts : startsWord "WHERE".toList (c :: rest) = true
    · have length : 5 ≤ (c :: rest).length := length_le_of_startsWord starts
      have dropped : (c :: rest ++ trail).drop 5 = (c :: rest).drop 5 ++ trail :=
        List.drop_append_of_le_length length
      rw [List.cons_append] at starts_eq dropped ⊢
      rw [behindWhere, behindWhere, starts_eq, dropped, starts, Bool.true_and, Bool.true_and]
      cases parts : (c :: rest).drop 5 with
      | nil =>
        -- Nothing but blanks follows, and no other WHERE does.
        have unmentioned := unmentioned_behind (parts ▸ List.forall_mem_nil _)
        rw [List.nil_append, blank.dropWhile_eq_nil, alone unmentioned,
          behindWhere_of_unmentioned unmentioned]
        simp
      | cons d others =>
        by_cases spaced : isBlank d = true
        · have here (more : List Char) : (d :: more).head?.any isBlank = true := spaced
          rw [List.cons_append, if_pos (here _), if_pos (here _)]
          exact dropWhile_append_blank blank (d :: others)
        · have unspaced (more : List Char) : ¬(d :: more).head?.any isBlank = true := spaced
          rw [List.cons_append, if_neg (unspaced _), if_neg (unspaced _)]
          exact ih
    · rw [List.cons_append] at starts_eq ⊢
      rw [behindWhere, behindWhere, starts_eq, (Bool.not_eq_true _).mp starts, Bool.false_and,
        Bool.false_and, if_neg Bool.false_ne_true, if_neg Bool.false_ne_true]
      exact ih

end Where

section Condition

theorem untilClause_of_unmentioned (unmentioned : mentionsClause text = false) :
    untilClause text = text := by
  induction text with
  | nil => rfl
  | cons c rest ih =>
    rw [mentionsClause_cons, Bool.or_eq_false_iff] at unmentioned
    rw [untilClause, unmentioned.1, if_neg Bool.false_ne_true, ih unmentioned.2]

theorem separatesClause_of_isBlank {c : Char} (blank : isBlank c = true) : SeparatesClause c :=
  ⟨separates_of_isBlank (by decide) blank, separates_of_isBlank (by decide) blank,
    separates_of_isBlank (by decide) blank⟩

theorem mentionsClause_blank (blank : Blank trail) : mentionsClause trail = false := by
  have separates (c : Char) (member : c ∈ trail) := separatesClause_of_isBlank (blank c member)
  rw [mentionsClause, mentions_of_separates (by decide) fun c member => (separates c member).1,
    mentions_of_separates (by decide) fun c member => (separates c member).2.1,
    mentions_of_separates (by decide) fun c member => (separates c member).2.2]
  rfl

theorem untilClause_append_blank (blank : Blank trail) (text : List Char) :
    untilClause (text ++ trail) =
      if mentionsClause text then untilClause text else text ++ trail := by
  cases trail with
  | nil =>
    rw [List.append_nil]
    split
    · rfl
    · rename_i unmentioned
      exact untilClause_of_unmentioned (Bool.not_eq_true _ ▸ unmentioned)
  | cons c trail =>
    obtain ⟨first, others⟩ := List.forall_mem_cons.mp blank
    rw [untilClause_append_cons (separatesClause_of_isBlank first),
      untilClause_of_unmentioned (mentionsClause_blank others)]

/-- The operators of the comparison that a statement ends in, if it counts and its value is
missing. -/
def unfinished? (text : List Char) : Option (List Char) :=
  match behindWhere text with
  | [] => none
  | first :: rest => if mentionsClause rest then none else openClause? (first :: rest)

theorem findCondition_of_uncut {first : Char} {rest : List Char}
    (behind : behindWhere text = first :: rest) (uncut : mentionsClause rest = false)
    (blank : Blank trail) :
    findCondition (text ++ trail) =
        (firstComparison (first :: rest ++ trail)).map ComparisonParts.condition ∧
      findCondition text = (firstComparison (first :: rest)).map ComparisonParts.condition := by
  rw [findCondition_eq, findCondition_eq, behindWhere_append blank, behind,
    if_neg (List.cons_ne_nil first rest), List.cons_append, clauseOf, clauseOf,
    untilClause_append_blank blank, uncut, if_neg Bool.false_ne_true,
    untilClause_of_unmentioned uncut]
  exact ⟨rfl, rfl⟩

theorem findCondition_append (finished : unfinished? text = none) (ends : EndsUnblank text)
    (blank : Blank trail) (present : trail ≠ []) :
    findCondition (text ++ trail) = findCondition text := by
  have endsBehind := ends.of_suffix (behindWhere_suffix text)
  cases behind : behindWhere text with
  | nil => rw [findCondition_eq, findCondition_eq, behindWhere_append blank, behind, if_pos rfl]
  | cons first rest =>
    simp only [unfinished?, behind] at finished endsBehind
    by_cases cut : mentionsClause rest = true
    · rw [findCondition_eq, findCondition_eq, behindWhere_append blank, behind,
        if_neg (List.cons_ne_nil first rest), List.cons_append, clauseOf, clauseOf,
        untilClause_append_blank blank, if_pos cut]
    · rw [if_neg cut] at finished
      obtain ⟨spaced, tight⟩ := findCondition_of_uncut behind (Bool.not_eq_true _ ▸ cut) blank
      rw [spaced, tight]
      exact firstComparison_append finished endsBehind blank present

theorem findCondition_readsApart (missing : unfinished? text = some operators)
    (ends : EndsUnblank text) (blank : Blank trail) (present : trail ≠ []) :
    ReadsApart operators (findCondition (text ++ trail)) (findCondition text) := by
  have endsBehind := ends.of_suffix (behindWhere_suffix text)
  cases behind : behindWhere text with
  | nil =>
    simp only [unfinished?, behind] at missing
    cases missing
  | cons first rest =>
    simp only [unfinished?, behind] at missing endsBehind
    split at missing
    · cases missing
    · rename_i uncut
      obtain ⟨spaced, tight⟩ := findCondition_of_uncut behind (Bool.not_eq_true _ ▸ uncut) blank
      rw [spaced, tight]
      exact firstComparison_readsApart missing endsBehind blank present

end Condition

section Others

theorem refuses_anyTableChar : Refuses isTableChar := by
  intro c blank
  rw [isTableChar, blank, Bool.not_true, Bool.and_false]

theorem find_sourcePattern_surrounded (before : Blank lead) (behind : Blank trail)
    (text : List Char) : sourcePattern.find (lead ++ text ++ trail) = sourcePattern.find text := by
  have quote : Refuses (· == '"') := .of_unblank fun c same => by
    rw [beq_iff_eq.mp same]
    decide
  have needs : Needs isTableChar (.perhaps (· == '"') <| .opens <| .some1 isTableChar <| .closes <|
    .perhaps (· == '"') .found) := .perhaps _ <| .opens <| .here _
  refine find_word_surrounded (by decide) (by decide) ?_ before behind text
  refine .some1 (.inr ⟨isTableChar, refuses_anyTableChar, needs⟩) <| .perhaps (.inl quote) ?_
  exact .opens <| .some1 (.inl refuses_anyTableChar) <| .closes <| .perhaps (.inl quote) .found

theorem find_limitPattern_surrounded (before : Blank lead) (behind : Blank trail)
    (text : List Char) : limitPattern.find (lead ++ text ++ trail) = limitPattern.find text := by
  have digit : Refuses Text.isDigit := .of_unblank fun _ => isBlank_eq_false_of_isDigit
  refine find_word_surrounded (by decide) (by decide) ?_ before behind text
  refine .some1 (.inr ⟨Text.isDigit, digit, .opens <| .here _⟩) ?_
  exact .opens <| .some1 (.inl digit) <| .closes .found

theorem find_groupPattern_surrounded (before : Blank lead) (behind : Blank trail)
    (text : List Char) : groupPattern.find (lead ++ text ++ trail) = groupPattern.find text := by
  have wordChar : Refuses isWord := .of_unblank fun _ => isBlank_eq_false_of_isWord
  refine find_word_surrounded (by decide) (by decide) ?_ before behind text
  refine .some1 (.inr (barren_word (by decide) (by decide) _)) <| .word (by decide) ?_
  refine .some1 (.inr ⟨isWord, wordChar, .opens <| .here _⟩) ?_
  exact .opens <| .some1 (.inl wordChar) <| .closes .found

theorem find_selectPattern_surrounded (before : Blank lead) (behind : Blank trail)
    (text : List Char) : selectPattern.find (lead ++ text ++ trail) = selectPattern.find text := by
  -- Whatever the list takes, FROM has to stand behind it.
  have from_needed : Needs (sameLetter 'F') (.some1 isBlank <| .word "FROM".toList .found) :=
    .some1 _ <| .here _
  have foreign : Refuses (sameLetter 'F') := refuses_sameLetter (by decide)
  refine find_word_surrounded (by decide) (by decide) ?_ before behind text
  refine .some1 (.inr ⟨_, foreign, .opens <| .one _ <| .fewest _ <| .closes from_needed⟩) ?_
  refine .opens <| .one (.inr ⟨_, foreign, .fewest _ <| .closes from_needed⟩) ?_
  refine .fewest (.inr ⟨_, foreign, .closes from_needed⟩) <| .closes ?_
  exact .some1 (.inr (barren_word (by decide) (by decide) _)) <| .word (by decide) .found

end Others

section Statement

/-- The operators of the comparison without a value that a statement ends in, if blanks follow. -/
def hanging? (statement : String) : Option (List Char) :=
  if statement.toList.getLast?.any isBlank then unfinished? (trim statement).toList else none

theorem exists_trim (statement : String) :
    ∃ lead trail, statement.toList = lead ++ (trim statement).toList ++ trail ∧ Blank lead ∧
      Blank trail := by
  rw [trim, String.toList_ofList]
  exact exists_trimChars statement.toList

theorem endsUnblank_trim (statement : String) : EndsUnblank (trim statement).toList := by
  rw [trim, String.toList_ofList]
  exact isBlank_getLast_trimChars statement.toList

theorem ofStatement_trim (statement : String) :
    Clauses.ofStatement statement =
      { Clauses.ofStatement (trim statement) with
        condition := findCondition statement.toList } := by
  obtain ⟨lead, trail, split, before, behind⟩ := exists_trim statement
  simp only [Clauses.ofStatement, findSource, findLimit, findGroupBy, findAggregates, split,
    find_sourcePattern_surrounded before behind, find_limitPattern_surrounded before behind,
    find_groupPattern_surrounded before behind, find_selectPattern_surrounded before behind]

theorem findCondition_blank_append (blank : Blank lead) (text : List Char) :
    findCondition (lead ++ text) = findCondition text := by
  have found : wherePattern.find (lead ++ text) = wherePattern.find text :=
    find_blank_append (by decide) unblank_where blank text
  simp only [findCondition, found]

theorem findCondition_trim {statement : String} (finished : hanging? statement = none) :
    findCondition statement.toList = findCondition (trim statement).toList := by
  obtain ⟨lead, trail, split, before, behind⟩ := exists_trim statement
  rw [split, List.append_assoc, findCondition_blank_append before]
  by_cases present : trail = []
  · rw [present, List.append_nil]
  · have spaced : statement.toList.getLast?.any isBlank = true := by
      rw [split, List.getLast?_append, List.getLast?_eq_some_getLast present]
      exact behind _ (List.getLast_mem present)
    rw [hanging?, if_pos spaced] at finished
    exact findCondition_append finished (endsUnblank_trim statement) behind present

theorem findCondition_trim_apart {statement : String}
    (hanging : hanging? statement = some operators) :
    ReadsApart operators (findCondition statement.toList)
      (findCondition (trim statement).toList) := by
  obtain ⟨lead, trail, split, before, behind⟩ := exists_trim statement
  rw [hanging?] at hanging
  split at hanging
  · rename_i spaced
    have present : trail ≠ [] := by
      -- Without blanks behind it the statement would end as it does when it is trimmed.
      rintro rfl
      rw [split, List.append_nil, List.getLast?_append] at spaced
      cases last : (trim statement).toList.getLast? with
      | some c =>
        rw [last] at spaced
        have unblank := endsUnblank_trim statement c last
        rw [Option.some_or, Option.any_some, unblank] at spaced
        cases spaced
      | none =>
        rw [List.getLast?_eq_none_iff.mp last] at hanging
        cases hanging
    rw [split, List.append_assoc, findCondition_blank_append before]
    exact findCondition_readsApart hanging (endsUnblank_trim statement) behind present
  · cases hanging

end Statement

end Tabular.Sql
