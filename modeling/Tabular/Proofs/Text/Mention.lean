import Tabular.Proofs.Text.CharClass
import Tabular.Text.Pattern

/-! Where the letters of a word stand in a text, in any case.

A word is a run of letters, so a character that agrees with none of them keeps what stands
before it apart from what stands behind it: a word is mentioned on one side or on the other.
-/

set_option autoImplicit false

namespace Tabular.Text

open Pattern (sameLetter)

def startsWord : (letters text : List Char) → Bool
  | [], _ => true
  | _ :: _, [] => false
  | letter :: letters, c :: rest => sameLetter letter c && startsWord letters rest

def mentions (letters : List Char) : List Char → Bool
  | [] => startsWord letters []
  | c :: rest => startsWord letters (c :: rest) || mentions letters rest

def Separates (separator : Char) (letters : List Char) : Prop :=
  ∀ letter ∈ letters, sameLetter letter separator = false

instance (separator : Char) (letters : List Char) : Decidable (Separates separator letters) :=
  List.decidableBAll (fun letter => sameLetter letter separator = false) letters

theorem mentions_nil {letters : List Char} (word : letters ≠ []) : mentions letters [] = false := by
  cases letters with
  | nil => exact absurd rfl word
  | cons letter letters => rfl

section Separators

variable {separator : Char} {letters : List Char}

theorem startsWord_append_cons (separates : Separates separator letters) (text rest : List Char) :
    startsWord letters (text ++ separator :: rest) = startsWord letters text := by
  induction letters generalizing text with
  | nil => rfl
  | cons letter letters ih =>
    obtain ⟨foreign, separates⟩ := List.forall_mem_cons.mp separates
    cases text with
    | nil => simp [startsWord, foreign]
    | cons c text => simp only [List.cons_append, startsWord, ih separates]

theorem startsWord_separator (word : letters ≠ []) (separates : Separates separator letters)
    (rest : List Char) : startsWord letters (separator :: rest) = false := by
  cases letters with
  | nil => exact absurd rfl word
  | cons letter letters => exact startsWord_append_cons separates [] rest

theorem mentions_cons_separator (word : letters ≠ []) (separates : Separates separator letters)
    (rest : List Char) : mentions letters (separator :: rest) = mentions letters rest := by
  simp [mentions, startsWord_separator word separates]

theorem mentions_append_cons (word : letters ≠ []) (separates : Separates separator letters)
    (text rest : List Char) :
    mentions letters (text ++ separator :: rest) =
      (mentions letters text || mentions letters rest) := by
  induction text with
  | nil =>
    rw [List.nil_append, mentions_cons_separator word separates, mentions_nil word, Bool.false_or]
  | cons c text ih =>
    -- A word that starts before the separator ends before it.
    have here := startsWord_append_cons separates (c :: text) rest
    simp only [List.cons_append] at here ⊢
    simp only [mentions, here, ih, Bool.or_assoc]

theorem mentions_append_separator (word : letters ≠ []) (separates : Separates separator letters)
    (text : List Char) : mentions letters (text ++ [separator]) = mentions letters text := by
  rw [mentions_append_cons word separates, mentions_nil word, Bool.or_false]

end Separators

section Parts

variable {letters : List Char}

theorem startsWord_of_mentions_false {text : List Char}
    (unmentioned : mentions letters text = false) : startsWord letters text = false := by
  cases text with
  | nil => exact unmentioned
  | cons c rest => exact (Bool.or_eq_false_iff.mp unmentioned).1

theorem mentions_tail {c : Char} {rest : List Char}
    (unmentioned : mentions letters (c :: rest) = false) : mentions letters rest = false :=
  (Bool.or_eq_false_iff.mp unmentioned).2

theorem length_le_of_startsWord {text : List Char} (starts : startsWord letters text = true) :
    letters.length ≤ text.length := by
  induction letters generalizing text with
  | nil => exact Nat.zero_le _
  | cons letter letters ih =>
    cases text with
    | nil => cases starts
    | cons c text => exact Nat.succ_le_succ (ih (Bool.and_eq_true_iff.mp starts).2)

theorem mentions_suffix {text left : List Char} (suffix : left <:+ text)
    (unmentioned : mentions letters text = false) : mentions letters left = false := by
  induction text with
  | nil =>
    rw [List.suffix_nil.mp suffix]
    exact unmentioned
  | cons c text ih =>
    rcases List.suffix_cons_iff.mp suffix with whole | later
    · exact whole ▸ unmentioned
    · exact ih later (mentions_tail unmentioned)

theorem mentions_of_separates {text : List Char} (word : letters ≠ [])
    (separates : ∀ c ∈ text, Separates c letters) : mentions letters text = false := by
  induction text with
  | nil => exact mentions_nil word
  | cons c rest ih =>
    obtain ⟨first, others⟩ := List.forall_mem_cons.mp separates
    rw [mentions_cons_separator word first, ih others]

end Parts

section Case

theorem sameLetter_congr {c d : Char} (same : c.toLower = d.toLower) (letter : Char) :
    sameLetter letter c = sameLetter letter d := by
  -- The long s and the kelvin sign are compared as they are, and no letter lower-cases to them.
  have wide (wide : Char) (beyond : 128 ≤ wide.toNat) : (c == wide) = (d == wide) := by
    rw [Bool.eq_iff_iff, beq_iff_eq, beq_iff_eq, ← toLower_eq_iff beyond, same,
      toLower_eq_iff beyond]
  unfold sameLetter
  rw [same, wide 'ſ' (by decide), wide '\u212A' (by decide)]

theorem isBlank_eq_false_of_sameLetter {letter c : Char} (unblank : isBlank letter = false)
    (same : sameLetter letter c = true) : isBlank c = false := by
  simp only [sameLetter, Bool.or_eq_true, Bool.and_eq_true, beq_iff_eq] at same
  rcases same with (equal | ⟨rfl, -⟩) | ⟨rfl, -⟩
  · rw [← isBlank_toLower, ← equal, isBlank_toLower, unblank]
  · decide
  · decide

theorem startsWord_congr {text other : List Char}
    (same : text.map Char.toLower = other.map Char.toLower) (letters : List Char) :
    startsWord letters text = startsWord letters other := by
  induction letters generalizing text other with
  | nil => rfl
  | cons letter letters ih =>
    cases text with
    | nil =>
      rw [List.map_nil] at same
      rw [List.map_eq_nil_iff.mp same.symm]
    | cons c text =>
      cases other with
      | nil => exact absurd same (List.cons_ne_nil _ _)
      | cons d other =>
        obtain ⟨first, rest⟩ := List.cons.inj same
        simp only [startsWord, sameLetter_congr first, ih rest]

theorem startsWord_spelled {letters spelled : List Char}
    (same : spelled.map Char.toLower = letters.map Char.toLower) (rest : List Char) :
    startsWord letters (spelled ++ rest) = true := by
  induction letters generalizing spelled with
  | nil => rfl
  | cons letter letters ih =>
    cases spelled with
    | nil => exact absurd same.symm (List.cons_ne_nil _ _)
    | cons c spelled =>
      obtain ⟨first, others⟩ := List.cons.inj same
      have agrees : sameLetter letter c = true := by
        simp only [sameLetter, first, beq_self_eq_true, Bool.true_or]
      simp only [List.cons_append, startsWord, agrees, ih others, Bool.and_self]

theorem mentions_congr {text other : List Char}
    (same : text.map Char.toLower = other.map Char.toLower) (letters : List Char) :
    mentions letters text = mentions letters other := by
  induction text generalizing other with
  | nil =>
    rw [List.map_nil] at same
    rw [List.map_eq_nil_iff.mp same.symm]
  | cons c text ih =>
    cases other with
    | nil => exact absurd same (List.cons_ne_nil _ _)
    | cons d other =>
      have here := startsWord_congr same letters
      simp only [mentions, here, ih (List.cons.inj same).2]

/-- Only the letters s and k have a case beyond ASCII, so a word without them is a matter of
lower case. -/
theorem startsWord_iff_prefix {letters text : List Char}
    (plain : ∀ letter ∈ letters, letter.toLower ≠ 's' ∧ letter.toLower ≠ 'k') :
    startsWord letters text = true ↔ letters.map Char.toLower <+: text.map Char.toLower := by
  induction letters generalizing text with
  | nil => exact iff_of_true rfl List.nil_prefix
  | cons letter letters ih =>
    obtain ⟨⟨notS, notK⟩, plain⟩ := List.forall_mem_cons.mp plain
    cases text with
    | nil => simp [startsWord]
    | cons c text =>
      have agrees : sameLetter letter c = (letter.toLower == c.toLower) := by
        rw [sameLetter, beq_eq_false_iff_ne.mpr notS, beq_eq_false_iff_ne.mpr notK,
          Bool.and_false, Bool.and_false, Bool.or_false, Bool.or_false]
      rw [startsWord, agrees, Bool.and_eq_true, beq_iff_eq, ih plain, List.map_cons, List.map_cons,
        List.cons_prefix_cons]

end Case

end Tabular.Text
