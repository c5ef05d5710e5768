import Tabular.Proofs.Text.CharClass
import Tabular.Proofs.Text.Match
import Tabular.Proofs.Text.Split
import Tabular.Sql.Run

/-! Which aggregates a statement gives.

A part of a SELECT list gives the aggregate of the first call in it. The keyword of a call is
found in any case, and the long s has the case of the letter s there; its name is looked up in
the cases of ASCII alone. So a keyword with a long s in it is found and names no aggregation.
-/

set_option autoImplicit false

namespace Tabular.Sql

open Text
open Text.Pattern

section Names

variable {function : Aggregation} {keyword : List Char}

theorem map_toLower_name (function : Aggregation) :
    function.name.toList.map Char.toLower = function.name.toList := by
  cases function <;> decide

theorem ascii_name (function : Aggregation) :
    ∀ letter ∈ function.name.toList, letter.toNat < 128 := by
  cases function <;> decide

theorem ofName_eq_of_toLower (spells : keyword.map Char.toLower = function.name.toList) :
    Aggregation.ofName (String.ofList keyword) = function := by
  have lower : asciiLower (String.ofList keyword) = function.name := by
    rw [asciiLower, String.toList_ofList, spells, String.ofList_toList]
  unfold Aggregation.ofName
  rw [lower]
  cases function <;> rfl

theorem ofName_eq_none_of_mem {wide : Char} (beyond : 128 ≤ wide.toNat) (member : wide ∈ keyword) :
    Aggregation.ofName (String.ofList keyword) = .none := by
  -- Lower-casing leaves the character where it is, and all of the names are ASCII.
  have foreign (function : Aggregation) : asciiLower (String.ofList keyword) ≠ function.name := by
    intro same
    have lowered : wide.toLower ∈ function.name.toList := by
      rw [← same, asciiLower, String.toList_ofList, String.toList_ofList]
      exact List.mem_map_of_mem member
    rw [(toLower_eq_iff beyond).mpr rfl] at lowered
    exact absurd (ascii_name function wide lowered) (Nat.not_lt.mpr beyond)
  unfold Aggregation.ofName
  split
  · exact absurd ‹_› (foreign .sum)
  · exact absurd ‹_› (foreign .count)
  · exact absurd ‹_› (foreign .avg)
  · exact absurd ‹_› (foreign .min)
  · exact absurd ‹_› (foreign .max)
  · rfl

theorem ofName_keyword (spells : Spells function.name.toList keyword) :
    Aggregation.ofName (String.ofList keyword) = if 'ſ' ∈ keyword then .none else function := by
  split
  · rename_i long
    exact ofName_eq_none_of_mem (by decide) long
  · rename_i short
    have kless : ∀ letter ∈ function.name.toList, letter.toLower ≠ 'k' := by
      cases function <;> decide
    exact ofName_eq_of_toLower
      ((map_toLower_of_spells spells kless short).trans (map_toLower_name function))

end Names

section Calls

inductive Argument (column : List Char) : List Char → Prop where
  | intro {gap inner outer : List Char} (rest : List Char) (named : column ≠ [])
      (wordChars : ∀ c ∈ column, isWord c = true) (gapBlank : ∀ c ∈ gap, isBlank c = true)
      (innerBlank : ∀ c ∈ inner, isBlank c = true) (outerBlank : ∀ c ∈ outer, isBlank c = true) :
    Argument column (gap ++ '(' :: (inner ++ (column ++ (outer ++ ')' :: rest))))

inductive StartsCall (function : Aggregation) (keyword column : List Char) : List Char → Prop where
  | intro {argument : List Char} (real : function ≠ .none)
      (spells : Spells function.name.toList keyword) (takes : Argument column argument) :
    StartsCall function keyword column (keyword ++ argument)

/-- The first call in a text. -/
inductive FirstCall (function : Aggregation) (keyword column : List Char) : List Char → Prop where
  | here {text : List Char} (starts : StartsCall function keyword column text) :
    FirstCall function keyword column text
  | later {c : Char} {text : List Char}
      (unstarted : ∀ other spelled name, ¬StartsCall other spelled name (c :: text))
      (first : FirstCall function keyword column text) :
    FirstCall function keyword column (c :: text)

variable {function : Aggregation} {keyword column text : List Char} {before : Option Char}
  {captures : List (List Char)}

theorem matchAt_argumentPattern_iff :
    argumentPattern.matchAt (keyword ++ text) ⟨before, text⟩ = some captures ↔
      ∃ column, Argument column text ∧ captures = [keyword, column] := by
  -- What follows a repetition begins with none of its characters.
  have wordless : ∀ c, isBlank c = true → isWord c = false := by
    intro c blank
    rw [← Bool.not_eq_true]
    intro wordChar
    rw [isBlank_eq_false_of_isWord wordChar] at blank
    cases blank
  have closing : Apart isBlank (one (· == ')') found) := .char (by decide) _
  have behindColumn : Apart isWord (most isBlank (one (· == ')') found)) :=
    .most wordless (.char (by decide) _)
  have atColumn (next : Pattern) : Apart isBlank (opens (some1 isWord next)) :=
    (Apart.one (fun c wordChar => isBlank_eq_false_of_isWord wordChar) _).opens
  have opening (next : Pattern) : Apart isBlank (one (· == '(') next) := .char (by decide) _
  unfold argumentPattern
  rw [matchAt_closes, Option.map_eq_some_iff]
  constructor
  · rintro ⟨others, matched, rfl⟩
    obtain ⟨gap, _, rfl, gapBlank, atOpening⟩ := (matchAt_most_iff (opening _)).mp matched
    obtain ⟨c, _, rfl, opens, behindOpening⟩ := matchAt_one_iff.mp atOpening
    obtain ⟨inner, _, rfl, innerBlank, atName⟩ := (matchAt_most_iff (atColumn _)).mp behindOpening
    obtain ⟨column, _, others, rfl, named, wordChars, behindName, rfl⟩ :=
      (matchAt_capture_iff behindColumn).mp atName
    obtain ⟨outer, _, rfl, outerBlank, atClosing⟩ := (matchAt_most_iff closing).mp behindName
    obtain ⟨d, rest, rfl, closes, ended⟩ := matchAt_one_iff.mp atClosing
    cases ended
    rw [beq_iff_eq.mp opens, beq_iff_eq.mp closes]
    exact ⟨column, .intro rest named wordChars gapBlank innerBlank outerBlank, rfl⟩
  · rintro ⟨column, ⟨rest, named, wordChars, gapBlank, innerBlank, outerBlank⟩, rfl⟩
    refine ⟨[column], ?_, rfl⟩
    refine (matchAt_most_iff (opening _)).mpr ⟨_, _, rfl, gapBlank, ?_⟩
    refine matchAt_one_iff.mpr ⟨'(', _, rfl, by decide, ?_⟩
    refine (matchAt_most_iff (atColumn _)).mpr ⟨_, _, rfl, innerBlank, ?_⟩
    refine (matchAt_capture_iff behindColumn).mpr
      ⟨column, _, [], rfl, named, wordChars, ?_, rfl⟩
    refine (matchAt_most_iff closing).mpr ⟨_, _, rfl, outerBlank, ?_⟩
    exact matchAt_one_iff.mpr ⟨')', rest, rfl, by decide, rfl⟩

theorem matchAt_call_iff {letters : List Char}
    (same : letters.map Char.toLower = function.name.toList) (real : function ≠ .none) :
    (word letters argumentPattern).matchAt text ⟨before, text⟩ = some captures ↔
      ∃ keyword column, StartsCall function keyword column text ∧ captures = [keyword, column] := by
  have lower := same.trans (map_toLower_name function).symm
  rw [matchAt_word_iff]
  constructor
  · rintro ⟨keyword, argument, rfl, spells, matched⟩
    obtain ⟨column, takes, rfl⟩ := matchAt_argumentPattern_iff.mp matched
    exact ⟨keyword, column, .intro real (spells_congr lower spells) takes, rfl⟩
  · rintro ⟨keyword, column, ⟨-, spells, takes⟩, rfl⟩
    exact ⟨keyword, _, rfl, spells_congr lower.symm spells,
      matchAt_argumentPattern_iff.mpr ⟨column, takes, rfl⟩⟩

theorem StartsCall.real (starts : StartsCall function keyword column text) : function ≠ .none := by
  obtain ⟨real, -, -⟩ := starts
  exact real

/-- No name of a function starts another, so a text starts with calls of one function only. -/
theorem StartsCall.function_unique {other : Aggregation} {spelled name : List Char}
    (starts : StartsCall function keyword column text)
    (otherStarts : StartsCall other spelled name text) : function = other := by
  obtain ⟨real, spells, -⟩ := starts
  generalize whole : keyword ++ _ = text at otherStarts
  obtain ⟨otherReal, otherSpells, -⟩ := otherStarts
  have starting := prefix_or_prefix_of_spells (ascii_name function) (ascii_name other) spells
    otherSpells whole
  revert starting
  cases function <;> cases other <;> first | exact fun _ => rfl | decide

theorem matchAt_aggregatePattern_iff :
    aggregatePattern.matchAt [] ⟨before, text⟩ = some captures ↔
      ∃ function keyword column, StartsCall function keyword column text ∧
        captures = [keyword, column] := by
  unfold aggregatePattern
  rw [matchAt_opens]
  constructor
  · intro matched
    have called {letters : List Char} (function : Aggregation)
        (same : letters.map Char.toLower = function.name.toList) (real : function ≠ .none)
        (matched : (word letters argumentPattern).matchAt text ⟨before, text⟩ = some captures) :
        ∃ function keyword column, StartsCall function keyword column text ∧
          captures = [keyword, column] :=
      ⟨function, (matchAt_call_iff same real).mp matched⟩
    rcases matchAt_either_iff.mp matched with sum | ⟨-, matched⟩
    · exact called .sum (by decide) (by decide) sum
    rcases matchAt_either_iff.mp matched with count | ⟨-, matched⟩
    · exact called .count (by decide) (by decide) count
    rcases matchAt_either_iff.mp matched with avg | ⟨-, matched⟩
    · exact called .avg (by decide) (by decide) avg
    rcases matchAt_either_iff.mp matched with min | ⟨-, max⟩
    · exact called .min (by decide) (by decide) min
    · exact called .max (by decide) (by decide) max
  · rintro ⟨function, keyword, column, starts, rfl⟩
    have own (letters : List Char) (same : letters.map Char.toLower = function.name.toList) :
        (word letters argumentPattern).matchAt text ⟨before, text⟩ = some [keyword, column] :=
      (matchAt_call_iff same starts.real).mpr ⟨keyword, column, starts, rfl⟩
    have other (letters : List Char) (other : Aggregation)
        (same : letters.map Char.toLower = other.name.toList) (otherReal : other ≠ .none)
        (distinct : function ≠ other) :
        (word letters argumentPattern).matchAt text ⟨before, text⟩ = none := by
      rw [Option.eq_none_iff_forall_ne_some]
      intro captures matched
      obtain ⟨_, _, otherStarts, -⟩ := (matchAt_call_iff same otherReal).mp matched
      exact distinct (starts.function_unique otherStarts)
    have sum := other "SUM".toList .sum (by decide) (by decide)
    have count := other "COUNT".toList .count (by decide) (by decide)
    have avg := other "AVG".toList .avg (by decide) (by decide)
    have min := other "MIN".toList .min (by decide) (by decide)
    cases function with
    | none => exact absurd rfl starts.real
    | sum => exact matchAt_either_left (own "SUM".toList (by decide))
    | count =>
      rw [matchAt_either_right (sum (by decide))]
      exact matchAt_either_left (own "COUNT".toList (by decide))
    | avg =>
      rw [matchAt_either_right (sum (by decide)), matchAt_either_right (count (by decide))]
      exact matchAt_either_left (own "AVG".toList (by decide))
    | min =>
      rw [matchAt_either_right (sum (by decide)), matchAt_either_right (count (by decide)),
        matchAt_either_right (avg (by decide))]
      exact matchAt_either_left (own "MIN".toList (by decide))
    | max =>
      rw [matchAt_either_right (sum (by decide)), matchAt_either_right (count (by decide)),
        matchAt_either_right (avg (by decide)), matchAt_either_right (min (by decide))]
      exact own "MAX".toList (by decide)

theorem FirstCall.spells (first : FirstCall function keyword column text) :
    Spells function.name.toList keyword := by
  induction first with
  | here starts =>
    obtain ⟨-, spells, -⟩ := starts
    exact spells
  | later _ _ ih => exact ih

theorem FirstCall.real (first : FirstCall function keyword column text) : function ≠ .none := by
  induction first with
  | here starts => exact starts.real
  | later _ _ ih => exact ih

theorem FirstCall.keyword_subset (first : FirstCall function keyword column text) :
    ∀ c ∈ keyword, c ∈ text := by
  induction first with
  | here starts =>
    obtain ⟨-, -, -⟩ := starts
    exact fun c member => List.mem_append_left _ member
  | later _ _ ih => exact fun c member => List.mem_cons_of_mem _ (ih c member)

theorem findFrom_aggregatePattern_iff :
    aggregatePattern.findFrom before text = some captures ↔
      ∃ function keyword column, FirstCall function keyword column text ∧
        captures = [keyword, column] := by
  -- The search and the first call go along the text alike: a call here, or none here and one later.
  induction text generalizing before with
  | nil =>
    rw [findFrom, matchAt_aggregatePattern_iff]
    constructor
    · rintro ⟨function, keyword, column, starts, rfl⟩
      exact ⟨function, keyword, column, .here starts, rfl⟩
    · rintro ⟨function, keyword, column, ⟨starts⟩, rfl⟩
      exact ⟨function, keyword, column, starts, rfl⟩
  | cons c text ih =>
    cases matched : aggregatePattern.matchAt [] ⟨before, c :: text⟩ with
    | some others =>
      obtain ⟨function, keyword, column, starts, rfl⟩ := matchAt_aggregatePattern_iff.mp matched
      rw [findFrom_here before matched]
      constructor
      · rintro ⟨⟩
        exact ⟨function, keyword, column, .here starts, rfl⟩
      · rintro ⟨other, spelled, name, here | ⟨unstarted, -⟩, rfl⟩
        · rw [← matched]
          exact matchAt_aggregatePattern_iff.mpr ⟨other, spelled, name, here, rfl⟩
        · exact absurd starts (unstarted function keyword column)
    | none =>
      have unstarted (other : Aggregation) (spelled name : List Char) :
          ¬StartsCall other spelled name (c :: text) := by
        intro starts
        have here : aggregatePattern.matchAt [] ⟨before, c :: text⟩ = some [spelled, name] :=
          matchAt_aggregatePattern_iff.mpr ⟨other, spelled, name, starts, rfl⟩
        rw [matched] at here
        cases here
      rw [findFrom, matched, ih]
      constructor
      · rintro ⟨function, keyword, column, first, rfl⟩
        exact ⟨function, keyword, column, .later unstarted first, rfl⟩
      · rintro ⟨function, keyword, column, starts | ⟨-, first⟩, rfl⟩
        · exact absurd starts (unstarted function keyword column)
        · exact ⟨function, keyword, column, first, rfl⟩

end Calls

section Aggregates

def selectedParts (text : List Char) : List (List Char) :=
  match selectPattern.find text with
  | some [items] => Text.splitAt ',' items
  | _ => []

def labelIn (part : List Char) : Option String :=
  match labelPattern.find part with
  | some [label] => some (String.ofList label)
  | _ => none

theorem findAggregates_eq (text : List Char) :
    findAggregates text = (selectedParts text).filterMap aggregateOf := by
  unfold findAggregates selectedParts
  cases selectPattern.find text with
  | none => rfl
  | some captures =>
    match captures with
    | [] | [_] | _ :: _ :: _ => rfl

/-- A part gives the aggregate of its first call, of no function for a long s in the keyword. -/
theorem aggregateOf_eq_some_iff {part : List Char} {aggregate : Aggregate} :
    aggregateOf part = some aggregate ↔
      ∃ function keyword column, FirstCall function keyword column part ∧
        aggregate = ⟨if 'ſ' ∈ keyword then .none else function, String.ofList column,
          labelIn part⟩ := by
  have read (function keyword column) (found : aggregatePattern.find part = some [keyword, column])
      (spells : Spells function.name.toList keyword) :
      aggregateOf part = some ⟨if 'ſ' ∈ keyword then .none else function, String.ofList column,
        labelIn part⟩ := by
    rw [← ofName_keyword spells]
    simp only [aggregateOf, found]
    rfl
  constructor
  · intro made
    cases found : aggregatePattern.find part with
    | none => simp [aggregateOf, found] at made
    | some captures =>
      obtain ⟨function, keyword, column, first, rfl⟩ := findFrom_aggregatePattern_iff.mp found
      rw [read function keyword column found first.spells] at made
      exact ⟨function, keyword, column, first, (Option.some.inj made).symm⟩
  · rintro ⟨function, keyword, column, first, rfl⟩
    have found : aggregatePattern.find part = some [keyword, column] :=
      findFrom_aggregatePattern_iff.mpr ⟨function, keyword, column, first, rfl⟩
    exact read function keyword column found first.spells

theorem mem_aggregates_iff {statement : String} {aggregate : Aggregate} :
    aggregate ∈ (Clauses.ofStatement statement).aggregates ↔
      ∃ part ∈ selectedParts statement.toList, ∃ function keyword column,
        FirstCall function keyword column part ∧
          aggregate = ⟨if 'ſ' ∈ keyword then .none else function, String.ofList column,
            labelIn part⟩ := by
  have aggregates : (Clauses.ofStatement statement).aggregates =
      findAggregates statement.toList := rfl
  simp only [aggregates, findAggregates_eq, List.mem_filterMap, aggregateOf_eq_some_iff]

theorem keyword_subset {text part : List Char} {function : Aggregation} {keyword column : List Char}
    (member : part ∈ selectedParts text) (first : FirstCall function keyword column part) :
    ∀ c ∈ keyword, c ∈ text := by
  unfold selectedParts at member
  split at member
  · rename_i items found
    intro c within
    have inItems := mem_of_mem_splitAt member (first.keyword_subset c within)
    exact mem_of_findFrom found List.mem_cons_self inItems
  · cases member

/-- An aggregate that reduces the numbers of every group and does not call itself none. -/
structure Aggregate.Real (aggregate : Aggregate) : Prop where
  function : aggregate.function ≠ .none
  reduces : ∀ group : Group, ∃ number,
    aggregate.function.reduce (Aggregation.numbersIn group.rows aggregate.column) = some number
  named : ¬"none_".toList <+: { aggregate with label := none }.outputName.toList

theorem Aggregate.real_iff {aggregate : Aggregate} :
    aggregate.Real ↔ aggregate.function ≠ .none := by
  refine ⟨fun real => real.function, fun real => ⟨real, fun group => ?_, ?_⟩⟩
  · exact Option.ne_none_iff_exists'.mp fun unreduced =>
      real (Aggregation.reduce_eq_none_iff.mp unreduced)
  · obtain ⟨function, column, label⟩ := aggregate
    cases function with
    | none => exact absurd rfl real
    | _ => simp [outputName, Aggregation.name, String.toList_append]

/-- The aggregates of a statement are the first calls in the parts of its list. All of them are
real exactly when no keyword of these calls is spelled with a long s, so in particular when the
statement has no long s. -/
theorem aggregates_real_iff (statement : String) :
    (∀ aggregate, aggregate ∈ (Clauses.ofStatement statement).aggregates ↔
      ∃ part ∈ selectedParts statement.toList, ∃ function keyword column,
        FirstCall function keyword column part ∧
          aggregate = ⟨if 'ſ' ∈ keyword then .none else function, String.ofList column,
            labelIn part⟩) ∧
    ((∀ aggregate ∈ (Clauses.ofStatement statement).aggregates, aggregate.Real) ↔
      ∀ part ∈ selectedParts statement.toList, ∀ function keyword column,
        FirstCall function keyword column part → 'ſ' ∉ keyword) ∧
    ('ſ' ∉ statement.toList →
      ∀ aggregate ∈ (Clauses.ofStatement statement).aggregates, aggregate.Real) := by
  have real_iff : (∀ aggregate ∈ (Clauses.ofStatement statement).aggregates, aggregate.Real) ↔
      ∀ part ∈ selectedParts statement.toList, ∀ function keyword column,
        FirstCall function keyword column part → 'ſ' ∉ keyword := by
    constructor
    · intro real part member function keyword column first long
      have made := mem_aggregates_iff.mpr ⟨part, member, function, keyword, column, first, rfl⟩
      have named := (real _ made).function
      rw [if_pos long] at named
      exact named rfl
    · intro short aggregate member
      obtain ⟨part, selected, function, keyword, column, first, rfl⟩ := mem_aggregates_iff.mp member
      rw [if_neg (short part selected function keyword column first), Aggregate.real_iff]
      exact first.real
  refine ⟨fun aggregate => mem_aggregates_iff, real_iff, fun short => real_iff.mpr ?_⟩
  intro part member function keyword column first long
  exact short (keyword_subset member first _ long)

/-- A sum spelled with a long s is found, reduces nothing and calls itself none. -/
theorem aggregates_long_s :
    ¬∀ statement : String, ∀ aggregate ∈ (Clauses.ofStatement statement).aggregates,
      aggregate.Real := by
  intro real
  have aggregates : (Clauses.ofStatement "SELECT ſUM(x) FROM t").aggregates =
      [⟨.none, "x", none⟩] := by decide
  have member : ⟨.none, "x", none⟩ ∈ (Clauses.ofStatement "SELECT ſUM(x) FROM t").aggregates := by
    rw [aggregates]
    exact List.mem_singleton_self _
  exact (real _ _ member).function rfl

end Aggregates

end Tabular.Sql
