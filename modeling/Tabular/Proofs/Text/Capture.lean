import Tabular.Proofs.Text.Pattern

/-! What the first capture of a match is made of.

A pattern that captures a run of accepted characters, after whatever parts without captures,
captures nothing else, wherever in a text it is found.
-/

set_option autoImplicit false

namespace Tabular.Text

theorem exists_run_of_mostThen {α : Type} {accepts : Char → Bool} {next : Place → Option α}
    {before : Option Char} {text : List Char} {result : α}
    (matched : mostThen accepts next before text = some result) :
    ∃ run rest, text = run ++ rest ∧ (∀ c ∈ run, accepts c = true) ∧
      next ⟨charBehind before run, rest⟩ = some result := by
  have here {before : Option Char} {text : List Char}
      (matched : next ⟨before, text⟩ = some result) :
      ∃ run rest, text = run ++ rest ∧ (∀ c ∈ run, accepts c = true) ∧
        next ⟨charBehind before run, rest⟩ = some result :=
    ⟨[], text, rfl, List.forall_mem_nil _, matched⟩
  induction text generalizing before with
  | nil => exact here matched
  | cons c text ih =>
    rw [mostThen] at matched
    split at matched
    · rename_i accepted
      split at matched
      · rename_i further
        obtain ⟨run, rest, rfl, all, ends⟩ := ih (further.trans matched)
        exact ⟨c :: run, rest, rfl, List.forall_mem_cons.mpr ⟨accepted, all⟩, ends⟩
      · exact here matched
    · exact here matched

namespace Pattern

inductive Captures (accepts : Char → Bool) : Pattern → Prop where
  | here (next : Pattern) : Captures accepts (opens (some1 accepts (closes next)))
  | one {next : Pattern} (other : Char → Bool) :
    Captures accepts next → Captures accepts (one other next)
  | perhaps {next : Pattern} (other : Char → Bool) :
    Captures accepts next → Captures accepts (perhaps other next)
  | most {next : Pattern} (other : Char → Bool) :
    Captures accepts next → Captures accepts (most other next)

variable {accepts : Char → Bool} {pattern next : Pattern}

theorem Captures.some1 (other : Char → Bool) (captures : Captures accepts next) :
    Captures accepts (some1 other next) :=
  (captures.most other).one other

theorem Captures.word (letters : List Char) (captures : Captures accepts next) :
    Captures accepts (word letters next) := by
  induction letters with
  | nil => exact captures
  | cons letter letters ih => exact ih.one (sameLetter letter)

theorem accepted_of_matchAt_capture {opened : List Char} {place : Place} {first : List Char}
    {others : List (List Char)}
    (matched : (opens (some1 accepts (closes next))).matchAt opened place =
      some (first :: others)) : ∀ c ∈ first, accepts c = true := by
  obtain ⟨before, text⟩ := place
  rw [matchAt_opens] at matched
  cases text with
  | nil => cases matched
  | cons c text =>
    have step : (some1 accepts (closes next)).matchAt (c :: text) ⟨before, c :: text⟩ =
        if accepts c then mostThen accepts ((closes next).matchAt (c :: text)) (some c) text
        else none := rfl
    rw [step] at matched
    split at matched
    · rename_i accepted
      obtain ⟨run, rest, rfl, all, ends⟩ := exists_run_of_mostThen matched
      rw [← List.cons_append, matchAt_closes, Option.map_eq_some_iff] at ends
      obtain ⟨captures, -, same⟩ := ends
      obtain ⟨rfl, -⟩ := List.cons.inj same
      exact List.forall_mem_cons.mpr ⟨accepted, all⟩
    · cases matched

theorem accepted_of_matchAt (captures : Captures accepts pattern) {opened : List Char}
    {place : Place} {first : List Char} {others : List (List Char)}
    (matched : pattern.matchAt opened place = some (first :: others)) :
    ∀ c ∈ first, accepts c = true := by
  induction captures generalizing place with
  | here next => exact accepted_of_matchAt_capture matched
  | one other _ ih =>
    simp only [matchAt] at matched
    split at matched
    · cases matched
    · split at matched
      · exact ih matched
      · cases matched
  | perhaps other _ ih =>
    simp only [matchAt] at matched
    split at matched
    · exact ih matched
    · split at matched
      · split at matched
        · rename_i further
          exact ih (further.trans matched)
        · exact ih matched
      · exact ih matched
  | most other _ ih =>
    obtain ⟨_, _, -, -, ends⟩ := exists_run_of_mostThen matched
    exact ih ends

theorem accepted_of_findFrom (captures : Captures accepts pattern) {before : Option Char}
    {text first : List Char} {others : List (List Char)}
    (matched : pattern.findFrom before text = some (first :: others)) :
    ∀ c ∈ first, accepts c = true := by
  induction text generalizing before with
  | nil => exact accepted_of_matchAt captures matched
  | cons c text ih =>
    rw [findFrom] at matched
    split at matched
    · rename_i here
      exact accepted_of_matchAt captures (here.trans matched)
    · exact ih matched

end Pattern

end Tabular.Text
