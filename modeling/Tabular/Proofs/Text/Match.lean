import Mathlib.Data.List.Forall2
import Tabular.Proofs.Text.Capture

/-! What a match says about the text it is found in.

Where the part behind a repetition begins with none of its characters, the repetition takes all
of them, and a match splits the text in one way only. Whatever is captured stands in the text.
-/

set_option autoImplicit false

namespace Tabular.Text

open Pattern

/-- The letters of a word in any case, one character each. -/
abbrev Spells (letters spelled : List Char) : Prop :=
  List.Forall₂ (fun letter c => sameLetter letter c = true) letters spelled

section Spelling

theorem spells_congr {letters others : List Char}
    (same : letters.map Char.toLower = others.map Char.toLower) {spelled : List Char}
    (spells : Spells letters spelled) : Spells others spelled := by
  induction spells generalizing others with
  | nil =>
    rw [List.map_nil] at same
    rw [List.map_eq_nil_iff.mp same.symm]
    exact .nil
  | @cons letter c letters spelled agrees _ ih =>
    cases others with
    | nil => exact absurd same (List.cons_ne_nil _ _)
    | cons other others =>
      obtain ⟨first, rest⟩ := List.cons.inj same
      refine .cons ?_ (ih rest)
      unfold sameLetter at agrees ⊢
      rwa [← first]

theorem spells_of_toLower {letters spelled : List Char}
    (same : spelled.map Char.toLower = letters.map Char.toLower) : Spells letters spelled := by
  induction letters generalizing spelled with
  | nil =>
    rw [List.map_eq_nil_iff.mp same]
    exact .nil
  | cons letter letters ih =>
    cases spelled with
    | nil => exact absurd same.symm (List.cons_ne_nil _ _)
    | cons c spelled =>
      obtain ⟨first, others⟩ := List.cons.inj same
      refine .cons ?_ (ih others)
      simp only [sameLetter, first, beq_self_eq_true, Bool.true_or]

/-- A word without a letter k is spelled in the cases of ASCII, unless with a long s. -/
theorem map_toLower_of_spells {letters spelled : List Char} (spells : Spells letters spelled)
    (kless : ∀ letter ∈ letters, letter.toLower ≠ 'k') (short : 'ſ' ∉ spelled) :
    spelled.map Char.toLower = letters.map Char.toLower := by
  induction spells with
  | nil => rfl
  | @cons letter c letters spelled agrees _ ih =>
    obtain ⟨first, kless⟩ := List.forall_mem_cons.mp kless
    obtain ⟨distinct, short⟩ := not_or.mp (List.mem_cons.not.mp short)
    simp only [sameLetter, Bool.or_eq_true, Bool.and_eq_true, beq_iff_eq] at agrees
    rcases agrees with (same | ⟨long, -⟩) | ⟨-, kelvin⟩
    · rw [List.map_cons, List.map_cons, same, ih kless short]
    · exact absurd long.symm distinct
    · exact absurd kelvin first

theorem toLower_eq_of_sameLetter {letter other c : Char} (ascii : letter.toNat < 128)
    (otherAscii : other.toNat < 128) (same : sameLetter letter c = true)
    (otherSame : sameLetter other c = true) : letter.toLower = other.toLower := by
  -- The long s and the kelvin sign are the lower case of no letter of ASCII.
  have wide (letter wide : Char) (ascii : letter.toNat < 128) (beyond : 128 ≤ wide.toNat) :
      letter.toLower ≠ wide := by
    intro lowers
    rw [(toLower_eq_iff beyond).mp lowers] at ascii
    omega
  simp only [sameLetter, Bool.or_eq_true, Bool.and_eq_true, beq_iff_eq] at same otherSame
  rcases same with (same | ⟨rfl, same⟩) | ⟨rfl, same⟩
  · rcases otherSame with (otherSame | ⟨rfl, -⟩) | ⟨rfl, -⟩
    · exact same.trans otherSame.symm
    · exact absurd same (wide letter _ ascii (by decide))
    · exact absurd same (wide letter _ ascii (by decide))
  · rcases otherSame with (otherSame | ⟨-, otherSame⟩) | ⟨distinct, -⟩
    · exact absurd otherSame (wide other _ otherAscii (by decide))
    · exact same.trans otherSame.symm
    · exact absurd distinct (by decide)
  · rcases otherSame with (otherSame | ⟨distinct, -⟩) | ⟨-, otherSame⟩
    · exact absurd otherSame (wide other _ otherAscii (by decide))
    · exact absurd distinct (by decide)
    · exact same.trans otherSame.symm

theorem prefix_or_prefix_of_spells {letters others spelled otherSpelled rest otherRest : List Char}
    (ascii : ∀ letter ∈ letters, letter.toNat < 128)
    (othersAscii : ∀ letter ∈ others, letter.toNat < 128) (spells : Spells letters spelled)
    (otherSpells : Spells others otherSpelled)
    (same : spelled ++ rest = otherSpelled ++ otherRest) :
    letters.map Char.toLower <+: others.map Char.toLower ∨
      others.map Char.toLower <+: letters.map Char.toLower := by
  -- The two spellings go along the same characters until one of them is over.
  induction spells generalizing others otherSpelled with
  | nil => exact .inl List.nil_prefix
  | @cons letter c letters spelled agrees _ ih =>
    cases otherSpells with
    | nil => exact .inr List.nil_prefix
    | @cons other d others otherSpelled otherAgrees otherSpells =>
      obtain ⟨rfl, rests⟩ := List.cons.inj same
      obtain ⟨first, ascii⟩ := List.forall_mem_cons.mp ascii
      obtain ⟨otherFirst, othersAscii⟩ := List.forall_mem_cons.mp othersAscii
      have lower := toLower_eq_of_sameLetter first otherFirst agrees otherAgrees
      simp only [List.map_cons, lower, List.prefix_cons_inj]
      exact ih ascii othersAscii otherSpells rests

end Spelling

theorem mostThen_cons_eq_or {α : Type} {accepts : Char → Bool} {next : Place → Option α}
    (before : Option Char) (c : Char) (rest : List Char) :
    mostThen accepts next before (c :: rest) =
      if accepts c then (mostThen accepts next (some c) rest).or (next ⟨before, c :: rest⟩)
      else next ⟨before, c :: rest⟩ := by
  rw [mostThen]
  cases mostThen accepts next (some c) rest <;> rfl

namespace Pattern

variable {accepts : Char → Bool} {next : Pattern} {opened : List Char} {before : Option Char}
  {text : List Char} {captures : List (List Char)}

section Apart

/-- No match of the pattern begins with an accepted character. -/
def Apart (accepts : Char → Bool) (pattern : Pattern) : Prop :=
  ∀ opened place captures, pattern.matchAt opened place = some captures → Stops accepts place.rest

theorem Apart.one {other : Char → Bool} (apart : ∀ c, other c = true → accepts c = false)
    (next : Pattern) : Apart accepts (one other next) := by
  rintro opened ⟨before, text⟩ captures matched
  cases text with
  | nil => exact stops_nil accepts
  | cons c text =>
    simp only [matchAt] at matched
    split at matched
    · rename_i accepted
      exact stops_cons (apart c accepted) text
    · cases matched

theorem Apart.char {c : Char} (refused : accepts c = false) (next : Pattern) :
    Apart accepts (.one (· == c) next) :=
  .one (fun _ same => beq_iff_eq.mp same ▸ refused) next

theorem Apart.matchAt_eq_none (apart : Apart accepts next) {c : Char} (accepted : accepts c = true)
    (before : Option Char) (rest : List Char) :
    next.matchAt opened ⟨before, c :: rest⟩ = none := by
  rw [Option.eq_none_iff_forall_ne_some]
  intro captures matched
  have refused := (apart opened _ captures matched).head
  rw [accepted] at refused
  cases refused

theorem Apart.opens (apart : Apart accepts next) : Apart accepts (opens next) :=
  fun _ place captures matched => apart place.rest place captures matched

theorem Apart.closes (apart : Apart accepts next) : Apart accepts (closes next) := by
  intro opened place captures matched
  obtain ⟨others, behind, -⟩ := Option.map_eq_some_iff.mp matched
  exact apart [] place others behind

theorem Apart.most {other : Char → Bool} (refused : ∀ c, other c = true → accepts c = false)
    (apart : Apart accepts next) : Apart accepts (most other next) := by
  rintro opened ⟨before, text⟩ captures matched
  obtain ⟨run, rest, rfl, all, ends⟩ := exists_run_of_mostThen matched
  cases run with
  | nil => exact apart opened _ captures ends
  | cons c run => exact stops_cons (refused c (all c List.mem_cons_self)) (run ++ rest)

end Apart

section Match

theorem matchAt_one_iff :
    (one accepts next).matchAt opened ⟨before, text⟩ = some captures ↔
      ∃ c rest, text = c :: rest ∧ accepts c = true ∧
        next.matchAt opened ⟨some c, rest⟩ = some captures := by
  cases text with
  | nil => simp [matchAt]
  | cons c text =>
    simp only [matchAt]
    constructor
    · intro matched
      split at matched
      · rename_i accepted
        exact ⟨c, text, rfl, accepted, matched⟩
      · cases matched
    · rintro ⟨_, _, same, accepted, matched⟩
      obtain ⟨rfl, rfl⟩ := List.cons.inj same
      rw [if_pos accepted, matched]

theorem matchAt_most_iff (apart : Apart accepts next) :
    (most accepts next).matchAt opened ⟨before, text⟩ = some captures ↔
      ∃ run rest, text = run ++ rest ∧ (∀ c ∈ run, accepts c = true) ∧
        next.matchAt opened ⟨charBehind before run, rest⟩ = some captures := by
  constructor
  · exact exists_run_of_mostThen
  · rintro ⟨run, rest, rfl, accepted, matched⟩
    exact matchAt_most_run accepted (apart _ _ _ matched) before matched

theorem matchAt_most_eq {run rest : List Char} (apart : Apart accepts next)
    (accepted : ∀ c ∈ run, accepts c = true) (stops : Stops accepts rest)
    (before : Option Char) :
    (most accepts next).matchAt opened ⟨before, run ++ rest⟩ =
      next.matchAt opened ⟨charBehind before run, rest⟩ := by
  induction run generalizing before with
  | nil => exact mostThen_stops stops before
  | cons c run ih =>
    obtain ⟨first, others⟩ := List.forall_mem_cons.mp accepted
    rw [List.cons_append, matchAt, mostThen_cons_eq_or, if_pos first,
      apart.matchAt_eq_none first, Option.or_none]
    exact ih others (some c)

theorem matchAt_capture_eq {run rest : List Char} (apart : Apart accepts next) (nonempty : run ≠ [])
    (accepted : ∀ c ∈ run, accepts c = true) (stops : Stops accepts rest)
    (before : Option Char) :
    (opens (some1 accepts (closes next))).matchAt opened ⟨before, run ++ rest⟩ =
      (next.matchAt [] ⟨charBehind before run, rest⟩).map (run :: ·) := by
  cases run with
  | nil => exact absurd rfl nonempty
  | cons c run =>
    obtain ⟨first, others⟩ := List.forall_mem_cons.mp accepted
    calc (opens (some1 accepts (closes next))).matchAt opened ⟨before, c :: run ++ rest⟩
        = (most accepts (closes next)).matchAt (c :: run ++ rest) ⟨some c, run ++ rest⟩ :=
          if_pos first
      _ = (closes next).matchAt (c :: run ++ rest) ⟨charBehind (some c) run, rest⟩ :=
          matchAt_most_eq apart.closes others stops (some c)
      _ = (next.matchAt [] ⟨charBehind before (c :: run), rest⟩).map ((c :: run) :: ·) :=
          matchAt_closes (c :: run) rest _

theorem matchAt_perhaps_eq_or {c : Char} (rest : List Char) :
    (perhaps accepts next).matchAt opened ⟨before, c :: rest⟩ =
      if accepts c then
        (next.matchAt opened ⟨some c, rest⟩).or (next.matchAt opened ⟨before, c :: rest⟩)
      else next.matchAt opened ⟨before, c :: rest⟩ := by
  simp only [matchAt]
  split
  · cases next.matchAt opened ⟨some c, rest⟩ <;> rfl
  · rfl

theorem matchAt_word_iff {letters : List Char} :
    (word letters next).matchAt opened ⟨before, text⟩ = some captures ↔
      ∃ spelled rest, text = spelled ++ rest ∧ Spells letters spelled ∧
        next.matchAt opened ⟨charBehind before spelled, rest⟩ = some captures := by
  induction letters generalizing before text with
  | nil =>
    constructor
    · exact fun matched => ⟨[], text, rfl, .nil, matched⟩
    · rintro ⟨spelled, rest, rfl, spells, matched⟩
      cases spells
      exact matched
  | cons letter letters ih =>
    have step : word (letter :: letters) next = one (sameLetter letter) (word letters next) := rfl
    rw [step, matchAt_one_iff]
    constructor
    · rintro ⟨c, rest, rfl, same, matched⟩
      obtain ⟨spelled, rest, rfl, spells, matched⟩ := ih.mp matched
      exact ⟨c :: spelled, rest, rfl, .cons same spells, matched⟩
    · rintro ⟨spelled, rest, rfl, spells, matched⟩
      cases spells with
      | @cons _ c _ spelled same spells =>
        exact ⟨c, spelled ++ rest, rfl, same, ih.mpr ⟨spelled, rest, rfl, spells, matched⟩⟩

theorem matchAt_capture_iff (apart : Apart accepts next) :
    (opens (some1 accepts (closes next))).matchAt opened ⟨before, text⟩ = some captures ↔
      ∃ run rest others, text = run ++ rest ∧ run ≠ [] ∧ (∀ c ∈ run, accepts c = true) ∧
        next.matchAt [] ⟨charBehind before run, rest⟩ = some others ∧ captures = run :: others := by
  constructor
  · intro matched
    rw [matchAt_opens, some1, matchAt_one_iff] at matched
    obtain ⟨c, text, rfl, first, matched⟩ := matched
    obtain ⟨run, rest, rfl, accepted, matched⟩ := exists_run_of_mostThen matched
    rw [← List.cons_append, matchAt_closes, Option.map_eq_some_iff] at matched
    obtain ⟨others, behind, rfl⟩ := matched
    exact ⟨c :: run, rest, others, rfl, List.cons_ne_nil c run,
      List.forall_mem_cons.mpr ⟨first, accepted⟩, behind, rfl⟩
  · rintro ⟨run, rest, others, rfl, nonempty, accepted, matched, rfl⟩
    exact matchAt_capture nonempty accepted (apart _ _ _ matched) before matched

theorem matchAt_either_iff {first second : Pattern} {place : Place} :
    (either first second).matchAt opened place = some captures ↔
      first.matchAt opened place = some captures ∨
        first.matchAt opened place = none ∧ second.matchAt opened place = some captures := by
  cases matched : first.matchAt opened place <;> simp [matchAt, matched]

end Match

section Captured

theorem exists_run_of_fewestThen {α : Type} {next : Place → Option α} {result : α}
    (matched : fewestThen accepts next before text = some result) :
    ∃ run rest, text = run ++ rest ∧ (∀ c ∈ run, accepts c = true) ∧
      next ⟨charBehind before run, rest⟩ = some result := by
  induction text generalizing before with
  | nil => exact ⟨[], [], rfl, List.forall_mem_nil _, matched⟩
  | cons c text ih =>
    rw [fewestThen] at matched
    split at matched
    · rename_i here
      exact ⟨[], c :: text, rfl, List.forall_mem_nil _, here.trans matched⟩
    · split at matched
      · rename_i accepted
        obtain ⟨run, rest, rfl, all, ends⟩ := ih matched
        exact ⟨c :: run, rest, rfl, List.forall_mem_cons.mpr ⟨accepted, all⟩, ends⟩
      · cases matched

theorem mem_of_matchAt {pattern : Pattern} {place : Place}
    (matched : pattern.matchAt opened place = some captures) {capture : List Char}
    (captured : capture ∈ captures) {c : Char} (member : c ∈ capture) :
    c ∈ opened ∨ c ∈ place.rest := by
  -- A part hands its opening on to the next one, and an opening is what is left of the text there.
  induction pattern generalizing opened place captures with
  | found =>
    cases matched
    cases captured
  | one accepts next ih =>
    obtain ⟨d, rest, split, -, matched⟩ := matchAt_one_iff.mp matched
    rw [split]
    exact (ih matched captured).imp_right (List.mem_cons_of_mem d)
  | perhaps accepts next ih =>
    obtain ⟨before, text⟩ := place
    cases text with
    | nil => exact ih matched captured
    | cons d text =>
      simp only [matchAt] at matched
      split at matched
      · split at matched
        · rename_i further
          exact (ih (further.trans matched) captured).imp_right (List.mem_cons_of_mem d)
        · exact ih matched captured
      · exact ih matched captured
  | most accepts next ih =>
    obtain ⟨run, rest, split, -, matched⟩ := exists_run_of_mostThen matched
    rw [split]
    exact (ih matched captured).imp_right (List.mem_append_right run)
  | fewest accepts next ih =>
    obtain ⟨run, rest, split, -, matched⟩ := exists_run_of_fewestThen matched
    rw [split]
    exact (ih matched captured).imp_right (List.mem_append_right run)
  | either first second ihFirst ihSecond =>
    rcases matchAt_either_iff.mp matched with matched | ⟨-, matched⟩
    · exact ihFirst matched captured
    · exact ihSecond matched captured
  | opens next ih => exact .inr ((ih matched captured).elim id id)
  | closes next ih =>
    obtain ⟨others, behind, rfl⟩ := Option.map_eq_some_iff.mp matched
    rcases List.mem_cons.mp captured with rfl | captured
    · exact .inl (List.mem_of_mem_take member)
    · exact .inr ((ih behind captured).resolve_left List.not_mem_nil)
  | wordEdge next ih =>
    simp only [matchAt] at matched
    split at matched
    · exact ih matched captured
    · cases matched
  | textEnd next ih =>
    simp only [matchAt] at matched
    split at matched
    · exact ih matched captured
    · cases matched

theorem mem_of_findFrom {pattern : Pattern}
    (matched : pattern.findFrom before text = some captures) {capture : List Char}
    (captured : capture ∈ captures) {c : Char} (member : c ∈ capture) : c ∈ text := by
  have within {before : Option Char} {text : List Char}
      (matched : pattern.matchAt [] ⟨before, text⟩ = some captures) : c ∈ text :=
    (mem_of_matchAt matched captured member).resolve_left List.not_mem_nil
  induction text generalizing before with
  | nil => exact within matched
  | cons d text ih =>
    rw [findFrom] at matched
    split at matched
    · rename_i here
      exact within (here.trans matched)
    · exact List.mem_cons_of_mem d (ih matched)

end Captured

end Pattern

end Tabular.Text
