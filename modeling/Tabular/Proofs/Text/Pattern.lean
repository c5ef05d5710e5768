import Tabular.Proofs.Text.Mention

/-! How the parts of a pattern match on a text whose shape is known.

A repetition takes a run of accepted characters up to one that it does not accept, and what
follows it has to match there. A search passes over the places where nothing matches; for a
pattern that starts with a word those are the places before the word is mentioned.
-/

set_option autoImplicit false

namespace Tabular.Text

-- The steps of a match are unfolded throughout this file.
attribute [local simp] mostThen fewestThen Pattern.matchAt Pattern.findFrom

def charBehind : Option Char → List Char → Option Char
  | before, [] => before
  | _, c :: passed => charBehind (some c) passed

theorem charBehind_concat (before : Option Char) (passed : List Char) (last : Char) :
    charBehind before (passed ++ [last]) = some last := by
  induction passed generalizing before with
  | nil => rfl
  | cons c passed ih => exact ih (some c)

def Stops (accepts : Char → Bool) (rest : List Char) : Prop :=
  ∀ c ∈ rest.head?, accepts c = false

theorem stops_nil (accepts : Char → Bool) : Stops accepts [] := by
  intro c member
  cases member

theorem stops_cons {accepts : Char → Bool} {c : Char} (refused : accepts c = false)
    (rest : List Char) : Stops accepts (c :: rest) := by
  intro d member
  cases member
  exact refused

theorem Stops.head {accepts : Char → Bool} {c : Char} {rest : List Char}
    (stops : Stops accepts (c :: rest)) : accepts c = false :=
  stops c rfl

theorem Stops.mono {accepts fewer : Char → Bool} {rest : List Char} (stops : Stops accepts rest)
    (refused : ∀ c, accepts c = false → fewer c = false) : Stops fewer rest :=
  fun c member => refused c (stops c member)

theorem stops_append {accepts : Char → Bool} {run : List Char} (nonempty : run ≠ [])
    (stops : Stops accepts run) (rest : List Char) : Stops accepts (run ++ rest) := by
  cases run with
  | nil => exact absurd rfl nonempty
  | cons c run => exact stops_cons stops.head _

section Repetition

variable {α : Type} {accepts : Char → Bool} {next : Place → Option α}

theorem mostThen_stops {rest : List Char} (stops : Stops accepts rest) (before : Option Char) :
    mostThen accepts next before rest = next ⟨before, rest⟩ := by
  cases rest with
  | nil => rfl
  | cons c rest => simp [mostThen, stops.head]

theorem mostThen_run {run rest : List Char} {result : α}
    (accepted : ∀ c ∈ run, accepts c = true) (stops : Stops accepts rest) (before : Option Char)
    (matched : next ⟨charBehind before run, rest⟩ = some result) :
    mostThen accepts next before (run ++ rest) = some result := by
  -- Each step takes a character more, and fewer are never tried, for the rest of the run matches.
  induction run generalizing before with
  | nil => exact (mostThen_stops stops before).trans matched
  | cons c run ih =>
    obtain ⟨first, others⟩ := List.forall_mem_cons.mp accepted
    simp [mostThen, first, ih others (some c) matched]

theorem mostThen_eq_none {text : List Char} (before : Option Char)
    (unmatched : ∀ before rest, rest <:+ text → next ⟨before, rest⟩ = none) :
    mostThen accepts next before text = none := by
  induction text generalizing before with
  | nil => exact unmatched before [] (List.suffix_refl [])
  | cons c text ih =>
    have here := unmatched before (c :: text) (List.suffix_refl _)
    have later := ih (some c) fun before rest suffix =>
      unmatched before rest (suffix.trans (List.suffix_cons c text))
    simp [mostThen, here, later]

theorem fewestThen_eq_none {text : List Char} (before : Option Char)
    (unmatched : ∀ before rest, rest <:+ text → next ⟨before, rest⟩ = none) :
    fewestThen accepts next before text = none := by
  induction text generalizing before with
  | nil => exact unmatched before [] (List.suffix_refl [])
  | cons c text ih =>
    have here := unmatched before (c :: text) (List.suffix_refl _)
    have later := ih (some c) fun before rest suffix =>
      unmatched before rest (suffix.trans (List.suffix_cons c text))
    simp [fewestThen, here, later]

theorem fewestThen_here {rest : List Char} {result : α} (before : Option Char)
    (matched : next ⟨before, rest⟩ = some result) :
    fewestThen accepts next before rest = some result := by
  cases rest with
  | nil => exact matched
  | cons c rest => simp only [fewestThen, matched]

theorem fewestThen_passes {passed rest : List Char} (before : Option Char)
    (accepted : ∀ c ∈ passed, accepts c = true)
    (unmatched : ∀ before left, left ≠ [] → left <:+ passed → next ⟨before, left ++ rest⟩ = none) :
    fewestThen accepts next before (passed ++ rest) =
      fewestThen accepts next (charBehind before passed) rest := by
  induction passed generalizing before with
  | nil => rfl
  | cons c passed ih =>
    obtain ⟨first, others⟩ := List.forall_mem_cons.mp accepted
    have here := unmatched before (c :: passed) (List.cons_ne_nil _ _) (List.suffix_refl _)
    rw [List.cons_append] at here ⊢
    simp only [fewestThen, here, first, if_true]
    exact ih (some c) others fun before left nonempty suffix =>
      unmatched before left nonempty (suffix.trans (List.suffix_cons c passed))

end Repetition

namespace Pattern

section Match

variable {accepts : Char → Bool} {next : Pattern} {opened : List Char}

theorem matchAt_word (letters : List Char) (next : Pattern) (opened : List Char)
    (before : Option Char) (text : List Char) :
    (word letters next).matchAt opened ⟨before, text⟩ =
      if startsWord letters text then
        next.matchAt opened ⟨charBehind before (text.take letters.length), text.drop letters.length⟩
      else none := by
  induction letters generalizing before text with
  | nil => rfl
  | cons letter letters ih =>
    cases text with
    | nil => rfl
    | cons c text =>
      have step : (word (letter :: letters) next).matchAt opened ⟨before, c :: text⟩ =
          if sameLetter letter c then (word letters next).matchAt opened ⟨some c, text⟩
          else none := rfl
      rw [step, ih]
      by_cases same : sameLetter letter c = true
      · simp only [same, if_true, startsWord, Bool.true_and]
        rfl
      · simp only [Bool.not_eq_true] at same
        simp [same, startsWord]

theorem matchAt_word_eq_none {letters text : List Char} (absent : startsWord letters text = false)
    (before : Option Char) : (word letters next).matchAt opened ⟨before, text⟩ = none := by
  rw [matchAt_word, absent]
  rfl

theorem matchAt_word_spelled {letters spelled : List Char}
    (same : spelled.map Char.toLower = letters.map Char.toLower) (before : Option Char)
    (rest : List Char) :
    (word letters next).matchAt opened ⟨before, spelled ++ rest⟩ =
      next.matchAt opened ⟨charBehind before spelled, rest⟩ := by
  have length : spelled.length = letters.length := by
    rw [← List.length_map Char.toLower, same, List.length_map]
  rw [matchAt_word, startsWord_spelled same, if_pos rfl, ← length, List.take_left, List.drop_left]

theorem matchAt_word_self (letters : List Char) (before : Option Char) (rest : List Char) :
    (word letters next).matchAt opened ⟨before, letters ++ rest⟩ =
      next.matchAt opened ⟨charBehind before letters, rest⟩ :=
  matchAt_word_spelled rfl before rest

theorem matchAt_perhaps_stops {rest : List Char} (stops : Stops accepts rest)
    (before : Option Char) :
    (perhaps accepts next).matchAt opened ⟨before, rest⟩ = next.matchAt opened ⟨before, rest⟩ := by
  cases rest with
  | nil => rfl
  | cons c rest => simp [matchAt, stops.head]

theorem matchAt_perhaps_cons {c : Char} {rest : List Char} {captures : List (List Char)}
    (accepted : accepts c = true) (before : Option Char)
    (matched : next.matchAt opened ⟨some c, rest⟩ = some captures) :
    (perhaps accepts next).matchAt opened ⟨before, c :: rest⟩ = some captures := by
  simp [matchAt, accepted, matched]

theorem matchAt_perhaps_found (before : Option Char) (rest : List Char) :
    (perhaps accepts found).matchAt opened ⟨before, rest⟩ = some [] := by
  cases rest with
  | nil => rfl
  | cons c rest =>
    simp only [matchAt]
    split <;> rfl

theorem matchAt_most_run {run rest : List Char} {captures : List (List Char)}
    (accepted : ∀ c ∈ run, accepts c = true) (stops : Stops accepts rest) (before : Option Char)
    (matched : next.matchAt opened ⟨charBehind before run, rest⟩ = some captures) :
    (most accepts next).matchAt opened ⟨before, run ++ rest⟩ = some captures :=
  mostThen_run accepted stops before matched

theorem matchAt_most_single {c : Char} {rest : List Char} {captures : List (List Char)}
    (accepted : accepts c = true) (stops : Stops accepts rest) (before : Option Char)
    (matched : next.matchAt opened ⟨some c, rest⟩ = some captures) :
    (most accepts next).matchAt opened ⟨before, c :: rest⟩ = some captures := by
  have single : ∀ d ∈ [c], accepts d = true := List.forall_mem_singleton.mpr accepted
  exact matchAt_most_run single stops before matched

theorem matchAt_some1_eq_none {rest : List Char} (stops : Stops accepts rest)
    (before : Option Char) : (some1 accepts next).matchAt opened ⟨before, rest⟩ = none := by
  cases rest with
  | nil => rfl
  | cons c rest => simp [some1, matchAt, stops.head]

theorem matchAt_some1_single {c : Char} {rest : List Char} (accepted : accepts c = true)
    (stops : Stops accepts rest) (before : Option Char) :
    (some1 accepts next).matchAt opened ⟨before, c :: rest⟩ =
      next.matchAt opened ⟨some c, rest⟩ := by
  simp only [some1, matchAt, accepted, if_true]
  exact mostThen_stops stops (some c)

theorem matchAt_some1_run {run rest : List Char} {captures : List (List Char)}
    (nonempty : run ≠ []) (accepted : ∀ c ∈ run, accepts c = true) (stops : Stops accepts rest)
    (before : Option Char)
    (matched : next.matchAt opened ⟨charBehind before run, rest⟩ = some captures) :
    (some1 accepts next).matchAt opened ⟨before, run ++ rest⟩ = some captures := by
  cases run with
  | nil => exact absurd rfl nonempty
  | cons c run =>
    obtain ⟨first, others⟩ := List.forall_mem_cons.mp accepted
    simp only [List.cons_append, some1, matchAt, first, if_true]
    exact mostThen_run others stops (some c) matched

theorem matchAt_either_left {first second : Pattern} {place : Place}
    {captures : List (List Char)} (matched : first.matchAt opened place = some captures) :
    (either first second).matchAt opened place = some captures := by
  simp only [matchAt, matched]

theorem matchAt_either_right {first : Pattern} {place : Place}
    (unmatched : first.matchAt opened place = none) (second : Pattern) :
    (either first second).matchAt opened place = second.matchAt opened place := by
  simp only [matchAt, unmatched]

theorem matchAt_wordEdge_eq_none {place : Place}
    (unmatched : next.matchAt opened place = none) :
    (wordEdge next).matchAt opened place = none := by
  simp [matchAt, unmatched]

theorem matchAt_wordEdge {place : Place} (edge : place.isWordEdge = true) :
    (wordEdge next).matchAt opened place = next.matchAt opened place := by
  simp [matchAt, edge]

theorem matchAt_opens (before : Option Char) (rest : List Char) :
    (opens next).matchAt opened ⟨before, rest⟩ = next.matchAt rest ⟨before, rest⟩ := rfl

theorem matchAt_closes (run rest : List Char) (before : Option Char) :
    (closes next).matchAt (run ++ rest) ⟨before, rest⟩ =
      (next.matchAt [] ⟨before, rest⟩).map (run :: ·) := by
  simp only [matchAt, List.length_append, Nat.add_sub_cancel, List.take_left]

theorem matchAt_capture {run rest : List Char} {captures : List (List Char)}
    (nonempty : run ≠ []) (accepted : ∀ c ∈ run, accepts c = true) (stops : Stops accepts rest)
    (before : Option Char)
    (matched : next.matchAt [] ⟨charBehind before run, rest⟩ = some captures) :
    (opens (some1 accepts (closes next))).matchAt opened ⟨before, run ++ rest⟩ =
      some (run :: captures) := by
  refine matchAt_some1_run nonempty accepted stops before ?_
  rw [matchAt_closes, matched]
  rfl

theorem matchAt_capture_single {c : Char} {rest : List Char} {captures : List (List Char)}
    (accepted : accepts c = true) (stops : Stops accepts rest) (before : Option Char)
    (matched : next.matchAt [] ⟨some c, rest⟩ = some captures) :
    (opens (some1 accepts (closes next))).matchAt opened ⟨before, c :: rest⟩ =
      some ([c] :: captures) := by
  have single : ∀ d ∈ [c], accepts d = true := List.forall_mem_singleton.mpr accepted
  exact matchAt_capture (List.cons_ne_nil c []) single stops before matched

end Match

section Before

variable {before other : Option Char}

/-- A match sees of the character before it only whether it is a word character. -/
theorem matchAt_congr_before (same : before.any isWord = other.any isWord) (pattern : Pattern)
    (opened rest : List Char) :
    pattern.matchAt opened ⟨before, rest⟩ = pattern.matchAt opened ⟨other, rest⟩ := by
  -- A part that takes a character forgets the one before; the others hand it on.
  induction pattern generalizing opened with
  | found => rfl
  | one accepts next ih => cases rest <;> rfl
  | perhaps accepts next ih =>
    cases rest with
    | nil => exact ih opened
    | cons c rest => simp only [matchAt, ih opened]
  | most accepts next ih =>
    cases rest with
    | nil => exact ih opened
    | cons c rest => simp only [matchAt, mostThen, ih opened]
  | fewest accepts next ih =>
    cases rest with
    | nil => exact ih opened
    | cons c rest => simp only [matchAt, fewestThen, ih opened]
  | either first second ihFirst ihSecond => simp only [matchAt, ihFirst opened, ihSecond opened]
  | opens next ih => exact ih rest
  | closes next ih => simp only [matchAt, ih []]
  | wordEdge next ih =>
    have edge : Place.isWordEdge ⟨before, rest⟩ = Place.isWordEdge ⟨other, rest⟩ := by
      simp only [Place.isWordEdge, same]
    simp only [matchAt, edge, ih opened]
  | textEnd next ih => simp only [matchAt, ih opened]

theorem findFrom_congr_before (same : before.any isWord = other.any isWord) (pattern : Pattern)
    (text : List Char) : pattern.findFrom before text = pattern.findFrom other text := by
  cases text with
  | nil => exact matchAt_congr_before same pattern [] []
  | cons c text => simp only [findFrom, matchAt_congr_before same pattern [] (c :: text)]

end Before

section Find

variable {pattern : Pattern}

theorem findFrom_here {text : List Char} {captures : List (List Char)} (before : Option Char)
    (matched : pattern.matchAt [] ⟨before, text⟩ = some captures) :
    pattern.findFrom before text = some captures := by
  cases text with
  | nil => exact matched
  | cons c text => simp only [findFrom, matched]

theorem findFrom_passes {passed rest : List Char} (before : Option Char)
    (unmatched : ∀ before left, left ≠ [] → left <:+ passed →
      pattern.matchAt [] ⟨before, left ++ rest⟩ = none) :
    pattern.findFrom before (passed ++ rest) =
      pattern.findFrom (charBehind before passed) rest := by
  induction passed generalizing before with
  | nil => rfl
  | cons c passed ih =>
    have here := unmatched before (c :: passed) (List.cons_ne_nil _ _) (List.suffix_refl _)
    rw [List.cons_append] at here ⊢
    simp only [findFrom, here]
    exact ih (some c) fun before left nonempty suffix =>
      unmatched before left nonempty (suffix.trans (List.suffix_cons c passed))

theorem findFrom_eq_none {text : List Char} (before : Option Char)
    (unmatched : ∀ before left, left <:+ text → pattern.matchAt [] ⟨before, left⟩ = none) :
    pattern.findFrom before text = none := by
  have passes : pattern.findFrom before (text ++ []) =
      pattern.findFrom (charBehind before text) [] :=
    findFrom_passes before fun before left _ suffix => by
      rw [List.append_nil]
      exact unmatched before left suffix
  rw [List.append_nil] at passes
  exact passes.trans (unmatched _ [] List.nil_suffix)

end Find

section Needs

/-- Every match of the pattern takes an accepted character. -/
inductive Needs (accepts : Char → Bool) : Pattern → Prop where
  | here (next : Pattern) : Needs accepts (one accepts next)
  | one {next : Pattern} (other : Char → Bool) : Needs accepts next → Needs accepts (one other next)
  | perhaps {next : Pattern} (other : Char → Bool) :
    Needs accepts next → Needs accepts (perhaps other next)
  | most {next : Pattern} (other : Char → Bool) :
    Needs accepts next → Needs accepts (most other next)
  | fewest {next : Pattern} (other : Char → Bool) :
    Needs accepts next → Needs accepts (fewest other next)
  | either {first second : Pattern} :
    Needs accepts first → Needs accepts second → Needs accepts (either first second)
  | opens {next : Pattern} : Needs accepts next → Needs accepts (opens next)
  | closes {next : Pattern} : Needs accepts next → Needs accepts (closes next)
  | wordEdge {next : Pattern} : Needs accepts next → Needs accepts (wordEdge next)
  | textEnd {next : Pattern} : Needs accepts next → Needs accepts (textEnd next)

variable {accepts : Char → Bool} {pattern : Pattern}

theorem Needs.some1 {next : Pattern} (other : Char → Bool) (needs : Needs accepts next) :
    Needs accepts (some1 other next) :=
  (needs.most other).one other

theorem Needs.word {next : Pattern} (letters : List Char) (needs : Needs accepts next) :
    Needs accepts (word letters next) := by
  induction letters with
  | nil => exact needs
  | cons letter letters ih => exact ih.one (sameLetter letter)

theorem matchAt_eq_none_of_needs (needs : Needs accepts pattern) (opened : List Char)
    (before : Option Char) {text : List Char} (absent : ∀ c ∈ text, accepts c = false) :
    pattern.matchAt opened ⟨before, text⟩ = none := by
  -- Whatever a part takes off the text, a suffix of it is left without the character as well.
  induction needs generalizing opened before text with
  | here next =>
    cases text with
    | nil => rfl
    | cons c text =>
      have refused := absent c List.mem_cons_self
      simp [matchAt, refused]
  | one other _ ih =>
    cases text with
    | nil => rfl
    | cons c text =>
      have later := ih opened (some c) fun d member => absent d (List.mem_cons_of_mem c member)
      simp [matchAt, later]
  | perhaps other _ ih =>
    have here := ih opened before absent
    cases text with
    | nil => exact here
    | cons c text =>
      have later := ih opened (some c) fun d member => absent d (List.mem_cons_of_mem c member)
      simp [matchAt, here, later]
  | most other _ ih =>
    exact mostThen_eq_none before fun before rest suffix =>
      ih opened before fun c member => absent c (suffix.mem member)
  | fewest other _ ih =>
    exact fewestThen_eq_none before fun before rest suffix =>
      ih opened before fun c member => absent c (suffix.mem member)
  | either _ _ ihFirst ihSecond =>
    simp only [matchAt, ihFirst opened before absent, ihSecond opened before absent]
  | opens _ ih => exact ih text before absent
  | closes _ ih => simp only [matchAt, ih [] before absent, Option.map_none]
  | wordEdge _ ih => simp [matchAt, ih opened before absent]
  | textEnd _ ih => simp [matchAt, ih opened before absent]

theorem find_eq_none_of_needs (needs : Needs accepts pattern) {text : List Char}
    (absent : ∀ c ∈ text, accepts c = false) : pattern.find text = none :=
  findFrom_eq_none none fun before _ suffix =>
    matchAt_eq_none_of_needs needs [] before fun c member => absent c (suffix.mem member)

end Needs

section Word

variable {letters : List Char} {next : Pattern}

theorem findFrom_word_eq_none {text : List Char} (unmentioned : mentions letters text = false)
    (before : Option Char) : (word letters next).findFrom before text = none :=
  findFrom_eq_none before fun before _ suffix =>
    matchAt_word_eq_none (startsWord_of_mentions_false (mentions_suffix suffix unmentioned)) before

theorem findFrom_word_passes {separator : Char} {passed : List Char} (word : letters ≠ [])
    (separates : Separates separator letters) (unmentioned : mentions letters passed = false)
    (before : Option Char) (rest : List Char) :
    (Pattern.word letters next).findFrom before (passed ++ separator :: rest) =
      (Pattern.word letters next).findFrom (some separator) rest := by
  rw [findFrom_passes before fun before left _ suffix => matchAt_word_eq_none
    ((startsWord_append_cons separates left rest).trans
      (startsWord_of_mentions_false (mentions_suffix suffix unmentioned))) before]
  simp only [findFrom, matchAt_word_eq_none (startsWord_separator word separates rest)]

end Word

end Pattern

end Tabular.Text
