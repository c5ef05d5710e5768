import Tabular.Proofs.Text.CharClass
import Tabular.Proofs.Text.Pattern
import Tabular.Proofs.Text.Trim

/-! Matches that do not see the blanks around a text.

A part of a pattern that refuses blanks goes no further than a text whose end they are. A part
that takes them goes on into them, but in vain when what it goes on with needs a character that is
not blank. So a pattern made of such parts matches the same with blanks behind the text, and a
search for a word passes over the blanks before it.
-/

set_option autoImplicit false

namespace Tabular.Text

open Pattern

-- The steps of a match are unfolded throughout this file.
attribute [local simp] mostThen fewestThen Pattern.matchAt Pattern.findFrom

def Refuses (accepts : Char → Bool) : Prop := ∀ c, isBlank c = true → accepts c = false

theorem Refuses.of_unblank {accepts : Char → Bool}
    (unblank : ∀ c, accepts c = true → isBlank c = false) : Refuses accepts := by
  intro c blank
  rw [← Bool.not_eq_true]
  intro accepted
  rw [unblank c accepted] at blank
  cases blank

theorem Refuses.stops {accepts : Char → Bool} (refuses : Refuses accepts) {text : List Char}
    (blank : Blank text) : Stops accepts text :=
  fun c member => refuses c (blank c (List.mem_of_mem_head? member))

theorem isWord_eq_false_of_isBlank {c : Char} (blank : isBlank c = true) : isWord c = false :=
  Refuses.of_unblank (fun _ => isBlank_eq_false_of_isWord) c blank

theorem refuses_sameLetter {letter : Char} (unblank : isBlank letter = false) :
    Refuses (sameLetter letter) :=
  .of_unblank fun _ => isBlank_eq_false_of_sameLetter unblank

section Words

variable {letters trail : List Char}

theorem separates_of_isBlank (unblank : ∀ letter ∈ letters, isBlank letter = false) {c : Char}
    (blank : isBlank c = true) : Separates c letters :=
  fun letter member => refuses_sameLetter (unblank letter member) c blank

theorem startsWord_append_blank (unblank : ∀ letter ∈ letters, isBlank letter = false)
    (blank : Blank trail) (text : List Char) :
    startsWord letters (text ++ trail) = startsWord letters text := by
  cases trail with
  | nil => rw [List.append_nil]
  | cons c trail =>
    exact startsWord_append_cons (separates_of_isBlank unblank (blank c List.mem_cons_self)) text
      trail

theorem mentions_append_blank (word : letters ≠ [])
    (unblank : ∀ letter ∈ letters, isBlank letter = false) (blank : Blank trail)
    (text : List Char) : mentions letters (text ++ trail) = mentions letters text := by
  cases trail with
  | nil => rw [List.append_nil]
  | cons c trail =>
    obtain ⟨first, others⟩ := List.forall_mem_cons.mp blank
    have nowhere : mentions letters trail = false :=
      mentions_of_separates word fun d member => separates_of_isBlank unblank (others d member)
    rw [mentions_append_cons word (separates_of_isBlank unblank first), nowhere, Bool.or_false]

theorem mentions_of_length_lt {text : List Char} (short : text.length < letters.length) :
    mentions letters text = false := by
  have unstarted {text : List Char} (short : text.length < letters.length) :
      startsWord letters text = false := by
    rw [← Bool.not_eq_true]
    exact fun starts => Nat.not_lt.mpr (length_le_of_startsWord starts) short
  induction text with
  | nil => exact unstarted short
  | cons c rest ih =>
    rw [mentions, unstarted short, ih (Nat.lt_of_succ_lt short)]
    rfl

end Words

section Repetition

variable {α : Type} {accepts : Char → Bool} {next longer : Place → Option α} {trail : List Char}

theorem fewestThen_stops {rest : List Char} (stops : Stops accepts rest) (before : Option Char) :
    fewestThen accepts next before rest = next ⟨before, rest⟩ := by
  cases rest with
  | nil => rfl
  | cons c rest =>
    simp only [fewestThen, stops.head]
    cases next ⟨before, c :: rest⟩ <;> rfl

/-- A repetition stops where the end of the text begins, or goes on to no match in it. -/
def Halts (accepts : Char → Bool) (longer : Place → Option α) (trail : List Char) : Prop :=
  Stops accepts trail ∨ ∀ before left, left <:+ trail → longer ⟨before, left⟩ = none

theorem mostThen_append (halts : Halts accepts longer trail)
    (same : ∀ before rest, longer ⟨before, rest ++ trail⟩ = next ⟨before, rest⟩)
    (before : Option Char) (rest : List Char) :
    mostThen accepts longer before (rest ++ trail) = mostThen accepts next before rest := by
  induction rest generalizing before with
  | nil =>
    have here := same before []
    rw [List.nil_append] at here ⊢
    rw [mostThen, ← here]
    rcases halts with stops | unmatched
    · exact mostThen_stops stops before
    · rw [mostThen_eq_none before unmatched, unmatched before trail (List.suffix_refl trail)]
  | cons c rest ih =>
    have here := same before (c :: rest)
    rw [List.cons_append] at here ⊢
    simp only [mostThen, here, ih (some c)]

theorem fewestThen_append (halts : Halts accepts longer trail)
    (same : ∀ before rest, longer ⟨before, rest ++ trail⟩ = next ⟨before, rest⟩)
    (before : Option Char) (rest : List Char) :
    fewestThen accepts longer before (rest ++ trail) = fewestThen accepts next before rest := by
  induction rest generalizing before with
  | nil =>
    have here := same before []
    rw [List.nil_append] at here ⊢
    rw [fewestThen, ← here]
    rcases halts with stops | unmatched
    · exact fewestThen_stops stops before
    · rw [fewestThen_eq_none before unmatched, unmatched before trail (List.suffix_refl trail)]
  | cons c rest ih =>
    have here := same before (c :: rest)
    rw [List.cons_append] at here ⊢
    simp only [fewestThen, here, ih (some c)]

end Repetition

namespace Pattern

/-- Every match of the pattern takes a character that is not blank. -/
def Barren (pattern : Pattern) : Prop := ∃ needed, Refuses needed ∧ Needs needed pattern

theorem Barren.matchAt_eq_none {pattern : Pattern} (barren : Barren pattern)
    {text : List Char} (blank : Blank text) (opened : List Char) (before : Option Char) :
    pattern.matchAt opened ⟨before, text⟩ = none := by
  obtain ⟨needed, refuses, needs⟩ := barren
  exact matchAt_eq_none_of_needs needs opened before fun c member => refuses c (blank c member)

theorem Barren.findFrom_eq_none {pattern : Pattern} (barren : Barren pattern)
    {text : List Char} (blank : Blank text) (before : Option Char) :
    pattern.findFrom before text = none :=
  Pattern.findFrom_eq_none before fun before _ suffix =>
    barren.matchAt_eq_none (blank.of_suffix suffix) [] before

/-- A part of a pattern that goes on into blanks goes on to no match there. -/
def Settles (accepts : Char → Bool) (next : Pattern) : Prop := Refuses accepts ∨ Barren next

theorem Settles.halts {accepts : Char → Bool} {next : Pattern} (settles : Settles accepts next)
    {trail : List Char} (blank : Blank trail) (opened : List Char) :
    Halts accepts (next.matchAt opened) trail :=
  settles.imp (fun refuses => refuses.stops blank) fun barren before _ suffix =>
    barren.matchAt_eq_none (blank.of_suffix suffix) opened before

inductive Steady : Pattern → Prop where
  | found : Steady found
  | one {accepts : Char → Bool} {next : Pattern} :
    Settles accepts next → Steady next → Steady (one accepts next)
  | perhaps {accepts : Char → Bool} {next : Pattern} :
    Settles accepts next → Steady next → Steady (perhaps accepts next)
  | most {accepts : Char → Bool} {next : Pattern} :
    Settles accepts next → Steady next → Steady (most accepts next)
  | fewest {accepts : Char → Bool} {next : Pattern} :
    Settles accepts next → Steady next → Steady (fewest accepts next)
  | either {first second : Pattern} : Steady first → Steady second → Steady (either first second)
  | opens {next : Pattern} : Steady next → Steady (opens next)
  | closes {next : Pattern} : Steady next → Steady (closes next)

theorem Steady.some1 {accepts : Char → Bool} {next : Pattern} (settles : Settles accepts next)
    (steady : Steady next) : Steady (some1 accepts next) :=
  .one (settles.imp id fun ⟨needed, refuses, needs⟩ => ⟨needed, refuses, needs.most accepts⟩)
    (.most settles steady)

theorem Steady.word {letters : List Char} {next : Pattern}
    (unblank : ∀ letter ∈ letters, isBlank letter = false) (steady : Steady next) :
    Steady (word letters next) := by
  induction letters with
  | nil => exact steady
  | cons letter letters ih =>
    obtain ⟨first, others⟩ := List.forall_mem_cons.mp unblank
    exact .one (.inl (refuses_sameLetter first)) (ih others)

theorem barren_word {letters : List Char} (nonempty : letters ≠ [])
    (unblank : ∀ letter ∈ letters, isBlank letter = false) (next : Pattern) :
    Barren (word letters next) := by
  cases letters with
  | nil => exact absurd rfl nonempty
  | cons letter letters =>
    exact ⟨sameLetter letter, refuses_sameLetter (unblank letter List.mem_cons_self),
      .here (word letters next)⟩

/-- What is left from the last opening on, without and with the end of the text, if there was an
opening at all. -/
inductive Lengthens (trail : List Char) : (opened longer : List Char) → Prop where
  | unopened : Lengthens trail [] []
  | opened (opened : List Char) : Lengthens trail opened (opened ++ trail)

theorem Lengthens.take_eq {trail opened longer : List Char}
    (lengthens : Lengthens trail opened longer) (rest : List Char) :
    longer.take (longer.length - (rest ++ trail).length) =
      opened.take (opened.length - rest.length) := by
  cases lengthens with
  | unopened => rw [List.take_nil, List.take_nil]
  | opened =>
    rw [List.length_append, List.length_append, Nat.add_sub_add_right,
      List.take_append_of_le_length (Nat.sub_le _ _)]

/-- Blanks behind the text change no match of a steady pattern. -/
theorem Steady.matchAt_append {pattern : Pattern} (steady : Steady pattern) {trail : List Char}
    (blank : Blank trail) {opened longer : List Char} (lengthens : Lengthens trail opened longer)
    (before : Option Char) (rest : List Char) :
    pattern.matchAt longer ⟨before, rest ++ trail⟩ = pattern.matchAt opened ⟨before, rest⟩ := by
  -- A part that takes a character off the text leaves the end of it to the next one.
  induction steady generalizing opened longer before rest with
  | found => rfl
  | @one accepts next settles _ ih =>
    cases rest with
    | cons c rest => simp only [List.cons_append, matchAt, ih lengthens (some c) rest]
    | nil =>
      cases trail with
      | nil => rfl
      | cons c trail =>
        obtain ⟨first, others⟩ := List.forall_mem_cons.mp blank
        rw [List.nil_append]
        rcases settles with refuses | barren
        · simp [matchAt, refuses c first]
        · simp [matchAt, barren.matchAt_eq_none others]
  | @perhaps accepts next settles _ ih =>
    have here := ih lengthens before rest
    cases rest with
    | cons c rest =>
      rw [List.cons_append] at here ⊢
      simp only [matchAt, here, ih lengthens (some c) rest]
    | nil =>
      cases trail with
      | nil => exact here
      | cons c trail =>
        obtain ⟨first, others⟩ := List.forall_mem_cons.mp blank
        rw [List.nil_append] at here ⊢
        rcases settles with refuses | barren
        · simp only [matchAt, refuses c first, here]
          rfl
        · simp only [matchAt, barren.matchAt_eq_none others, here]
          split <;> rfl
  | most settles _ ih =>
    exact mostThen_append (settles.halts blank longer) (ih lengthens) before rest
  | fewest settles _ ih =>
    exact fewestThen_append (settles.halts blank longer) (ih lengthens) before rest
  | either _ _ ihFirst ihSecond =>
    simp only [matchAt, ihFirst lengthens before rest, ihSecond lengthens before rest]
  | opens _ ih => exact ih (.opened rest) before rest
  | closes _ ih => simp only [matchAt, ih .unopened before rest, lengthens.take_eq rest]

section Search

variable {letters trail : List Char} {next : Pattern}

theorem findFrom_append {pattern : Pattern} (steady : Steady pattern) (barren : Barren pattern)
    (blank : Blank trail) (before : Option Char) (text : List Char) :
    pattern.findFrom before (text ++ trail) = pattern.findFrom before text := by
  induction text generalizing before with
  | nil =>
    have unfound : pattern.findFrom before [] = none :=
      barren.findFrom_eq_none (List.forall_mem_nil _) before
    rw [List.nil_append, barren.findFrom_eq_none blank, unfound]
  | cons c text ih =>
    have here := steady.matchAt_append blank .unopened before (c :: text)
    rw [List.cons_append] at here ⊢
    simp only [findFrom, here, ih (some c)]

theorem find_blank_append (nonempty : letters ≠ [])
    (unblank : ∀ letter ∈ letters, isBlank letter = false) {lead : List Char} (blank : Blank lead)
    (text : List Char) :
    (word letters next).find (lead ++ text) = (word letters next).find text := by
  unfold find
  induction lead with
  | nil => rfl
  | cons c lead ih =>
    obtain ⟨first, others⟩ := List.forall_mem_cons.mp blank
    have unstarted := startsWord_separator nonempty (separates_of_isBlank unblank first)
      (lead ++ text)
    have edge : (some c).any isWord = (none : Option Char).any isWord :=
      isWord_eq_false_of_isBlank first
    rw [List.cons_append, findFrom, matchAt_word_eq_none unstarted]
    exact (findFrom_congr_before edge _ (lead ++ text)).trans (ih others)

theorem find_word_surrounded (nonempty : letters ≠ [])
    (unblank : ∀ letter ∈ letters, isBlank letter = false) (steady : Steady next)
    {lead : List Char} (before : Blank lead) (behind : Blank trail) (text : List Char) :
    (word letters next).find (lead ++ text ++ trail) = (word letters next).find text := by
  rw [List.append_assoc, find_blank_append nonempty unblank before]
  exact findFrom_append (steady.word unblank) (barren_word nonempty unblank next) behind none text

end Search

end Pattern

end Tabular.Text
