import Tabular.Proofs.Sql.Call
import Tabular.Proofs.Sql.Clauses

/-! What is read from a SELECT list.

The list goes up to the first FROM behind blanks. A part of it without a parenthesis is a plain
column, and a call in it is read with the label behind it; the call holds no blank, so a label
is found nowhere else.
-/

set_option autoImplicit false

namespace Tabular.Sql

open Text
open Text.Pattern

section List

variable {letters : List Char} {next : Pattern} {opened : List Char} {last : Char}

/-- A text that ends in no blank and does not mention a word has no blanks with the word behind
them. -/
theorem mostThen_word_eq_none (separates : Separates ' ' letters) (unblank : isBlank last = false)
    {init : List Char} (unmentioned : mentions letters (init ++ [last]) = false)
    (before : Option Char) (rest : List Char) :
    mostThen isBlank ((word letters next).matchAt opened) before (init ++ last :: ' ' :: rest) =
      none := by
  -- The repetition is over at the last character; until there the word does not start.
  induction init generalizing before with
  | nil =>
    have unstarted := startsWord_of_mentions_false unmentioned
    rw [List.nil_append, mostThen_stops (stops_cons unblank _)]
    exact matchAt_word_eq_none ((startsWord_append_cons separates [last] rest).trans unstarted) _
  | cons c init ih =>
    have unstarted := startsWord_of_mentions_false unmentioned
    have here (before : Option Char) :
        (word letters next).matchAt opened ⟨before, c :: init ++ last :: ' ' :: rest⟩ = none := by
      have split : c :: init ++ last :: ' ' :: rest = c :: init ++ [last] ++ ' ' :: rest := by
        rw [List.append_assoc]
        rfl
      rw [split]
      exact matchAt_word_eq_none ((startsWord_append_cons separates _ rest).trans unstarted) before
    have later := ih (mentions_tail unmentioned) (some c)
    rw [List.cons_append] at here ⊢
    simp [mostThen, here, later]

theorem matchAt_blanks_word_eq_none (separates : Separates ' ' letters)
    (unblank : isBlank last = false) {init : List Char}
    (unmentioned : mentions letters (init ++ [last]) = false) (before : Option Char)
    (rest : List Char) :
    (some1 isBlank (word letters next)).matchAt opened ⟨before, init ++ last :: ' ' :: rest⟩ =
      none := by
  cases init with
  | nil => exact matchAt_some1_eq_none (stops_cons unblank _) before
  | cons c init =>
    have later : mostThen isBlank ((word letters next).matchAt opened) (some c)
        (init ++ last :: ' ' :: rest) = none :=
      mostThen_word_eq_none separates unblank (mentions_tail unmentioned) (some c) rest
    simp [some1, matchAt, later]

/-- A text with something other than a blank at either end. -/
structure Trimmed (text : List Char) : Prop where
  nonempty : text ≠ []
  starts : Stops isBlank text
  ends : Stops isBlank text.reverse

theorem trimmed_of_isWord {text : List Char} (nonempty : text ≠ [])
    (wordChars : ∀ c ∈ text, isWord c = true) : Trimmed text := by
  have starts := stops_isBlank nonempty wordChars []
  have ends := stops_isBlank (List.reverse_ne_nil_iff.mpr nonempty)
    (fun c member => wordChars c (List.mem_reverse.mp member)) []
  rw [List.append_nil] at starts ends
  exact ⟨nonempty, starts, ends⟩

theorem trimmed_append {text other : List Char} (nonempty : text ≠ [])
    (starts : Stops isBlank text) (trimmed : Trimmed other) (between : List Char) :
    Trimmed (text ++ between ++ other) := by
  refine ⟨List.append_ne_nil_of_right_ne_nil _ trimmed.nonempty, ?_, ?_⟩
  · rw [List.append_assoc]
    exact stops_append nonempty starts _
  · rw [List.reverse_append]
    exact stops_append (List.reverse_ne_nil_iff.mpr trimmed.nonempty) trimmed.ends _

theorem find_selectPattern {items : List Char} (trimmed : Trimmed items)
    (unmentioned : mentions "FROM".toList items = false) (rest : List Char) :
    selectPattern.find ("SELECT".toList ++ ' ' :: (items ++ ' ' :: ("FROM".toList ++ rest))) =
      some [items] := by
  obtain ⟨first, others, rfl⟩ := List.exists_cons_of_ne_nil trimmed.nonempty
  have unblank : isBlank first = false := trimmed.starts.head
  have from_stops : Stops isBlank ("FROM".toList ++ rest) :=
    stops_append (by decide) (stops_cons (by decide) _) rest
  have unmatched (before : Option Char) (left : List Char) (nonempty : left ≠ [])
      (suffix : left <:+ others) :
      (closes (some1 isBlank (word "FROM".toList found))).matchAt
        (first :: others ++ ' ' :: ("FROM".toList ++ rest))
        ⟨before, left ++ ' ' :: ("FROM".toList ++ rest)⟩ = none := by
    -- A place inside the list has the last character of the list, which is no blank, ahead.
    rcases List.eq_nil_or_concat left with empty | ⟨init, last, split⟩
    · exact absurd empty nonempty
    rw [List.concat_eq_append] at split
    subst split
    have within : init ++ [last] <:+ first :: others := suffix.trans (List.suffix_cons first others)
    have lastUnblank : isBlank last = false := by
      obtain ⟨front, whole⟩ := within
      have ends := trimmed.ends
      rw [← whole, ← List.append_assoc, List.reverse_concat] at ends
      exact ends.head
    rw [matchAt, List.append_assoc, List.singleton_append,
      matchAt_blanks_word_eq_none (by decide) lastUnblank (mentions_suffix within unmentioned)]
    rfl
  have here : (closes (some1 isBlank (word "FROM".toList found))).matchAt
      (first :: others ++ ' ' :: ("FROM".toList ++ rest))
      ⟨charBehind (some first) others, ' ' :: ("FROM".toList ++ rest)⟩ =
        some [first :: others] := by
    rw [matchAt_closes, matchAt_some1_single (by decide) from_stops, matchAt_word_self]
    rfl
  have lazily : fewestThen anyChar
      ((closes (some1 isBlank (word "FROM".toList found))).matchAt
        (first :: others ++ ' ' :: ("FROM".toList ++ rest)))
      (some first) (others ++ ' ' :: ("FROM".toList ++ rest)) = some [first :: others] := by
    have accepted : ∀ c ∈ others, anyChar c = true := fun _ _ => rfl
    rw [fewestThen_passes (some first) accepted unmatched]
    exact fewestThen_here _ here
  unfold find selectPattern
  apply findFrom_here
  rw [matchAt_word_self, List.cons_append, matchAt_some1_single (by decide) (stops_cons unblank _)]
  exact lazily

end List

section Call

variable {spelled column : List Char}

theorem matchAt_aggregatePattern {function : Aggregation} (real : function ≠ .none)
    (spells : spelled.map Char.toLower = function.name.toList) (named : column ≠ [])
    (wordChars : ∀ c ∈ column, isWord c = true) (before : Option Char) (rest : List Char) :
    aggregatePattern.matchAt [] ⟨before, spelled ++ '(' :: (column ++ ')' :: rest)⟩ =
      some [spelled, column] := by
  have spelling := spells_of_toLower (spells.trans (map_toLower_name function).symm)
  have unspaced : ∀ c ∈ ([] : List Char), isBlank c = true := List.forall_mem_nil _
  have takes : Argument column ('(' :: (column ++ ')' :: rest)) :=
    .intro rest named wordChars unspaced unspaced unspaced
  exact matchAt_aggregatePattern_iff.mpr
    ⟨function, spelled, column, .intro real spelling takes, rfl⟩

end Call

section Label

/-- No label is found where a call stands, for no blank stands in it. -/
theorem findFrom_labelPattern_call {call : List Char} (unblank : ∀ c ∈ call, isBlank c = false)
    (before : Option Char) (rest : List Char) :
    labelPattern.findFrom before (call ++ [')'] ++ rest) =
      labelPattern.findFrom (some ')') rest := by
  rw [findFrom_passes before, charBehind_concat]
  intro before left nonempty suffix
  rcases List.suffix_concat_iff.mp suffix with empty | ⟨init, rfl, within⟩
  · exact absurd empty nonempty
  · rw [List.append_assoc]
    have unspaced (before : Option Char) :
        (some1 isBlank (opens (some1 isWord (closes found)))).matchAt []
          ⟨before, ')' :: rest⟩ = none :=
      matchAt_some1_eq_none (stops_cons (by decide) rest) before
    exact matchAt_wordEdge_eq_none (matchAt_word_blanks_eq_none (by decide)
      (fun c member => unblank c (within.mem member)) unspaced before)

theorem findFrom_labelPattern_nil (before : Option Char) :
    labelPattern.findFrom before [] = none :=
  matchAt_wordEdge_eq_none rfl

theorem findFrom_labelPattern_label {label : List Char} (named : label ≠ [])
    (wordChars : ∀ c ∈ label, isWord c = true) (before : Option Char) :
    labelPattern.findFrom before (' ' :: ("AS".toList ++ ' ' :: label)) = some [label] := by
  have here : labelPattern.matchAt [] ⟨before, ' ' :: ("AS".toList ++ ' ' :: label)⟩ = none :=
    matchAt_wordEdge_eq_none rfl
  have unblank := stops_isBlank named wordChars []
  rw [List.append_nil] at unblank
  have captured : (opens (some1 isWord (closes found))).matchAt [] ⟨some ' ', label ++ []⟩ =
      some [label] :=
    matchAt_capture named wordChars (stops_nil _) _ rfl
  rw [List.append_nil] at captured
  simp only [findFrom, here]
  apply findFrom_here
  unfold labelPattern
  rw [matchAt_wordEdge (by rfl), matchAt_word_self, matchAt_some1_single (by decide) unblank,
    captured]

end Label

section Part

theorem find_cons_blank {pattern : Pattern} {part : List Char}
    (unmatched : pattern.matchAt [] ⟨none, ' ' :: part⟩ = none) :
    pattern.find (' ' :: part) = pattern.find part := by
  have passed : pattern.find (' ' :: part) = pattern.findFrom (some ' ') part := by
    simp only [find, findFrom, unmatched]
  -- The blank is no word character, so the search sees an edge as at the start of a text.
  have edge : (some ' ').any isWord = (none : Option Char).any isWord := by decide
  rw [passed]
  exact findFrom_congr_before edge pattern part

theorem aggregateOf_cons_blank (part : List Char) :
    aggregateOf (' ' :: part) = aggregateOf part := by
  have aggregate : aggregatePattern.find (' ' :: part) = aggregatePattern.find part :=
    find_cons_blank rfl
  have label : labelPattern.find (' ' :: part) = labelPattern.find part :=
    find_cons_blank (matchAt_wordEdge_eq_none rfl)
  simp only [aggregateOf, aggregate, label]

theorem aggregateOf_plain {part : List Char} (plain : ∀ c ∈ part, (c == '(') = false) :
    aggregateOf part = none := by
  have argument : Needs (· == '(') argumentPattern := .closes <| .most _ <| .here _
  have needs : Needs (· == '(') aggregatePattern :=
    .opens <| .either (argument.word _) <| .either (argument.word _) <|
      .either (argument.word _) <| .either (argument.word _) (argument.word _)
  have unfound : aggregatePattern.find part = none := find_eq_none_of_needs needs plain
  simp only [aggregateOf, unfound]

theorem isBlank_spelled {function : Aggregation} {spelled : List Char}
    (spells : spelled.map Char.toLower = function.name.toList) :
    ∀ c ∈ spelled, isBlank c = false := by
  have all : ∀ c ∈ function.name.toList, isBlank c = false := by
    cases function <;> decide
  intro c member
  rw [← isBlank_toLower]
  exact all c.toLower (spells ▸ List.mem_map_of_mem member)

theorem aggregateOf_call {function : Aggregation} {spelled column : List Char}
    (real : function ≠ .none) (spells : spelled.map Char.toLower = function.name.toList)
    (named : column ≠ []) (wordChars : ∀ c ∈ column, isWord c = true) (rest : List Char) :
    aggregateOf (spelled ++ '(' :: (column ++ ')' :: rest)) =
      some ⟨function, String.ofList column,
        match labelPattern.findFrom (some ')') rest with
        | some [label] => some (String.ofList label)
        | _ => none⟩ := by
  have aggregate : aggregatePattern.find (spelled ++ '(' :: (column ++ ')' :: rest)) =
      some [spelled, column] :=
    findFrom_here none (matchAt_aggregatePattern real spells named wordChars none rest)
  have unblank : ∀ c ∈ spelled ++ '(' :: column, isBlank c = false := by
    intro c member
    rcases List.mem_append.mp member with inFunction | inColumn
    · exact isBlank_spelled spells c inFunction
    · rcases List.mem_cons.mp inColumn with rfl | inColumn
      · decide
      · exact isBlank_eq_false_of_isWord (wordChars c inColumn)
  have whole : spelled ++ '(' :: (column ++ ')' :: rest) =
      spelled ++ '(' :: column ++ [')'] ++ rest := by
    simp
  have label : labelPattern.find (spelled ++ '(' :: (column ++ ')' :: rest)) =
      labelPattern.findFrom (some ')') rest := by
    rw [whole]
    exact findFrom_labelPattern_call unblank none rest
  unfold aggregateOf
  rewrite [aggregate, label, ← ofName_eq_of_toLower spells]
  rfl

theorem aggregateOf_unlabelled {function : Aggregation} {spelled column : List Char}
    (real : function ≠ .none) (spells : spelled.map Char.toLower = function.name.toList)
    (named : column ≠ []) (wordChars : ∀ c ∈ column, isWord c = true) :
    aggregateOf (spelled ++ '(' :: (column ++ [')'])) =
      some ⟨function, String.ofList column, none⟩ := by
  rw [aggregateOf_call real spells named wordChars, findFrom_labelPattern_nil]

theorem aggregateOf_labelled {function : Aggregation} {spelled column label : List Char}
    (real : function ≠ .none) (spells : spelled.map Char.toLower = function.name.toList)
    (named : column ≠ []) (wordChars : ∀ c ∈ column, isWord c = true) (labelled : label ≠ [])
    (labelChars : ∀ c ∈ label, isWord c = true) :
    aggregateOf (spelled ++ '(' :: (column ++ ')' :: ' ' :: ("AS".toList ++ ' ' :: label))) =
      some ⟨function, String.ofList column, some (String.ofList label)⟩ := by
  rw [aggregateOf_call real spells named wordChars,
    findFrom_labelPattern_label labelled labelChars]

theorem not_mem_spelled {function : Aggregation} {spelled : List Char}
    (spells : spelled.map Char.toLower = function.name.toList) {mark : Char}
    (foreign : mark.toLower ∉ ['s', 'u', 'm', 'c', 'o', 'n', 't', 'a', 'v', 'g', 'i', 'x', 'e']) :
    mark ∉ spelled := by
  have all : ∀ c ∈ function.name.toList,
      c ∈ ['s', 'u', 'm', 'c', 'o', 'n', 't', 'a', 'v', 'g', 'i', 'x', 'e'] := by
    cases function <;> decide
  intro member
  exact foreign (all mark.toLower (spells ▸ List.mem_map_of_mem member))

end Part

end Tabular.Sql
