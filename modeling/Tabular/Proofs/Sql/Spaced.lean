import Tabular.Proofs.Sql.Clauses

/-! FROM in a text of words with one blank between them.

The list behind SELECT ends before the first word that starts with FROM, and the table is the word
behind the first one that ends with FROM. Whether FROM is all of that word makes no difference.
-/

set_option autoImplicit false

namespace Tabular.Sql

open Text
open Text.Pattern

def StartsFrom (text : List Char) : Prop := "from".toList <+: text.map Char.toLower

def EndsFrom (text : List Char) : Prop := "from".toList <:+ text.map Char.toLower

instance (text : List Char) : Decidable (StartsFrom text) :=
  inferInstanceAs (Decidable (_ <+: _))

instance (text : List Char) : Decidable (EndsFrom text) :=
  inferInstanceAs (Decidable (_ <:+ _))

theorem startsWord_from_iff {text : List Char} :
    startsWord "FROM".toList text = true ↔ StartsFrom text :=
  startsWord_iff_prefix (by decide)

section List

def endsList : List Char → Bool
  | [] => false
  | c :: rest => isBlank c && (startsWord "FROM".toList rest || endsList rest)

/-- The part of a text before the first blanks with FROM behind them. -/
def untilFrom : List Char → Option (List Char)
  | [] => none
  | c :: rest => if endsList (c :: rest) then some [] else (untilFrom rest).map (c :: ·)

variable {run rest opened passed text part : List Char} {c : Char}

theorem endsList_of_stops (stops : Stops isBlank text) : endsList text = false := by
  cases text with
  | nil => rfl
  | cons c text => rw [endsList, stops.head, Bool.false_and]

theorem untilFrom_cons (unblank : isBlank c = false) :
    untilFrom (c :: rest) = (untilFrom rest).map (c :: ·) := by
  rw [untilFrom, endsList_of_stops (stops_cons unblank rest), if_neg Bool.false_ne_true]

/-- A word goes on to the next one, unless that starts with FROM. -/
theorem untilFrom_append (unblank : ∀ c ∈ run, isBlank c = false) (stops : Stops isBlank rest) :
    untilFrom (run ++ ' ' :: rest) =
      if StartsFrom rest then some run else (untilFrom rest).map (run ++ ' ' :: ·) := by
  induction run with
  | nil =>
    have blank : isBlank ' ' = true := by decide
    rw [List.nil_append, untilFrom, endsList, blank, endsList_of_stops stops, Bool.or_false,
      Bool.true_and]
    simp only [startsWord_from_iff, List.nil_append]
  | cons c run ih =>
    obtain ⟨first, others⟩ := List.forall_mem_cons.mp unblank
    rw [List.cons_append, untilFrom_cons first, ih others]
    split
    · rfl
    · rw [Option.map_map]
      rfl

theorem mostThen_from (before : Option Char) (text : List Char) :
    mostThen isBlank ((word "FROM".toList found).matchAt opened) before text =
      if startsWord "FROM".toList text || endsList text then some [] else none := by
  -- The same is found with every number of blanks, so the order of trying does not matter.
  induction text generalizing before with
  | nil => rfl
  | cons c text ih =>
    have here : (word "FROM".toList found).matchAt opened ⟨before, c :: text⟩ =
        if startsWord "FROM".toList (c :: text) then some [] else none := matchAt_word ..
    rw [mostThen, ih, here, endsList]
    cases isBlank c with
    | false => simp
    | true =>
      cases startsWord "FROM".toList text <;> cases endsList text <;> simp

theorem matchAt_blanks_from (before : Option Char) (text : List Char) :
    (some1 isBlank (word "FROM".toList found)).matchAt opened ⟨before, text⟩ =
      if endsList text then some [] else none := by
  cases text with
  | nil => rfl
  | cons c text =>
    have step : (some1 isBlank (word "FROM".toList found)).matchAt opened ⟨before, c :: text⟩ =
        if isBlank c then
          mostThen isBlank ((word "FROM".toList found).matchAt opened) (some c) text
        else none := rfl
    rw [step, mostThen_from, endsList]
    cases isBlank c <;> simp

theorem fewestThen_from (passed text : List Char) (before : Option Char) :
    fewestThen anyChar ((closes (some1 isBlank (word "FROM".toList found))).matchAt
      (passed ++ text)) before text = (untilFrom text).map fun part => [passed ++ part] := by
  -- What has been passed grows with each step, while the opening of the capture stays.
  induction text generalizing passed before with
  | nil =>
    rw [fewestThen, matchAt_closes, matchAt_blanks_from]
    rfl
  | cons c text ih =>
    have later := ih (passed ++ [c]) (some c)
    rw [List.append_assoc, List.singleton_append] at later
    rw [fewestThen, matchAt_closes, matchAt_blanks_from, later, untilFrom]
    cases endsList (c :: text) with
    | true => simp
    | false =>
      simp only [Bool.false_eq_true, if_false, Option.map_none, anyChar, if_true, Option.map_map]
      congr 1
      funext part
      simp

theorem find_selectPattern_untilFrom (nonempty : text ≠ []) (stops : Stops isBlank text)
    (ends : untilFrom text = some part) :
    selectPattern.find ("SELECT".toList ++ ' ' :: text) = some [part] := by
  obtain ⟨first, rest, rfl⟩ := List.exists_cons_of_ne_nil nonempty
  have lazily := fewestThen_from [first] rest (some first)
  rw [untilFrom_cons stops.head] at ends
  obtain ⟨others, behind, rfl⟩ := Option.map_eq_some_iff.mp ends
  rw [behind] at lazily
  unfold find selectPattern
  apply findFrom_here
  rw [matchAt_word_self, matchAt_some1_single (by decide) stops]
  exact lazily

end List

section Source

variable {run rest front spelled table : List Char} {before : Option Char}

theorem matchAt_sourcePattern_eq_none (unblank : ∀ c ∈ run, isBlank c = false)
    (other : run.map Char.toLower ≠ "from".toList) :
    sourcePattern.matchAt [] ⟨before, run ++ ' ' :: rest⟩ = none := by
  unfold sourcePattern
  rw [matchAt_word, startsWord_append_cons (by decide)]
  split
  · rename_i starts
    have prefixed : StartsFrom run := startsWord_from_iff.mp starts
    rw [List.drop_append_of_le_length (length_le_of_startsWord starts)]
    cases remains : run.drop "FROM".toList.length with
    | nil =>
      have length := congrArg List.length remains
      have short : (run.map Char.toLower).length ≤ "from".toList.length := by
        rw [List.length_drop] at length
        rw [List.length_map]
        exact Nat.le_of_sub_eq_zero length
      exact absurd (prefixed.eq_of_length_le short).symm other
    | cons c left =>
      have member : c ∈ run := List.mem_of_mem_drop (remains ▸ List.mem_cons_self)
      exact matchAt_some1_eq_none (stops_cons (unblank c member) _) _
  · rfl

theorem findFrom_sourcePattern_passes (unblank : ∀ c ∈ run, isBlank c = false)
    (unended : ¬EndsFrom run) (before : Option Char) (rest : List Char) :
    sourcePattern.findFrom before (run ++ ' ' :: rest) =
      sourcePattern.findFrom (some ' ') rest := by
  -- Neither a letter of the word nor the blank behind it starts a match.
  have blank : sourcePattern.matchAt [] ⟨charBehind before run, ' ' :: rest⟩ = none :=
    matchAt_sourcePattern_eq_none (List.forall_mem_nil _) (by decide)
  rw [findFrom_passes before fun before left _ suffix => ?_]
  · simp only [findFrom, blank]
  · refine matchAt_sourcePattern_eq_none (fun c member => unblank c (suffix.mem member)) ?_
    intro whole
    have ended := suffix.map Char.toLower
    rw [whole] at ended
    exact unended ended

theorem findFrom_sourcePattern_ended (unblank : ∀ c ∈ run, isBlank c = false)
    (ended : EndsFrom run) (nonempty : table ≠ [])
    (accepted : ∀ c ∈ table, isTableChar c = true) (stops : Stops isTableChar rest)
    (before : Option Char) :
    sourcePattern.findFrom before (run ++ ' ' :: (table ++ rest)) = some [table] := by
  obtain ⟨lowered, split⟩ := ended
  obtain ⟨front, spelled, rfl, rfl, spells⟩ := List.map_eq_append_iff.mp split.symm
  obtain ⟨unspaced, unquoted⟩ := stops_tableChar nonempty accepted rest
  have here (before : Option Char) :
      sourcePattern.matchAt [] ⟨before, spelled ++ ' ' :: (table ++ rest)⟩ = some [table] := by
    unfold sourcePattern
    rw [matchAt_word_spelled (spells.trans (by decide)), matchAt_some1_single (by decide) unspaced,
      matchAt_perhaps_stops unquoted]
    exact matchAt_capture nonempty accepted stops _ (matchAt_perhaps_found _ _)
  rw [List.append_assoc, findFrom_passes before fun before left filled suffix => ?_]
  · exact findFrom_here _ (here _)
  · -- A place before the letters has more than FROM in front of the blank.
    have longer : (left ++ spelled).map Char.toLower ≠ "from".toList := by
      intro same
      have length := congrArg List.length (same.trans spells.symm)
      rw [List.length_map, List.length_map, List.length_append] at length
      exact filled (List.eq_nil_of_length_eq_zero (by omega))
    rw [← List.append_assoc]
    refine matchAt_sourcePattern_eq_none (fun c member => unblank c ?_) longer
    rcases List.mem_append.mp member with inLeft | inSpelled
    · exact List.mem_append_left _ (suffix.mem inLeft)
    · exact List.mem_append_right _ inSpelled

end Source

end Tabular.Sql
