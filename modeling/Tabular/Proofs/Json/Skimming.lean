import Tabular.Proofs.Json.Inversion

/-! What is read with care can be skimmed.

Skimming leaves out checks, so it passes over whatever is read with care and stops at the same
place. What it makes of a text may differ, for a character that takes two escapes counts as two.
-/

set_option autoImplicit false

namespace Tabular.Json

open Text

universe u v

def Passes {α : Type u} (reader : Reading α) (input rest : List Char) : Prop :=
  ∃ value, Reads reader input value rest

variable {input rest : List Char}

/-! ## Numerals -/

section Numerals

theorem fraction_of_ne (care : Care) {c : Char} (other : c ≠ '.') (input : List Char) :
    fraction care (c :: input) = Reader.done [] (c :: input) := by
  simp [fraction, other]

theorem signedExponent_of_ne (care : Care) {c : Char} (minus : c ≠ '-') (plus : c ≠ '+')
    (input : List Char) :
    signedExponent care (c :: input) =
      (digits care).map (fun found => (digitsValue found 0 : Int)) (c :: input) := by
  simp [signedExponent, minus, plus]

theorem exponent_of_ne (care : Care) {c : Char} (small : c ≠ 'e') (capital : c ≠ 'E')
    (input : List Char) : exponent care (c :: input) = Reader.done none (c :: input) := by
  simp [exponent, small, capital]

theorem skims_digits {found : List Char} (read : Reads (digits .careful) input found rest) :
    Reads (digits .skimming) input found rest := by
  cases input with
  | nil => cases read.2
  | cons c input => exact read

theorem skims_digits_map {β : Type} {f : List Char → β} {value : β}
    (read : Reads ((digits .careful).map f) input value rest) :
    Reads ((digits .skimming).map f) input value rest := by
  obtain ⟨found, first, rfl⟩ := reads_map_iff.mp read
  exact (skims_digits first).map

theorem skims_wholeDigits {found : List Char}
    (read : Reads (wholeDigits .careful) input found rest) :
    Reads (wholeDigits .skimming) input found rest := by
  obtain ⟨run, after, first, read⟩ := reads_andThen_iff.mp read
  exact (skims_digits first).andThen read

theorem skims_fraction {found : List Char} (read : Reads (fraction .careful) input found rest) :
    Reads (fraction .skimming) input found rest := by
  cases input with
  | nil => exact read
  | cons c input =>
    by_cases point : c = '.'
    · subst point
      exact .afterOne rfl (skims_digits ((reads_afterOne_iff rfl).mp read))
    · rw [Reads, fraction_of_ne _ point] at read ⊢
      exact read

theorem skims_signedExponent {value : Int}
    (read : Reads (signedExponent .careful) input value rest) :
    Reads (signedExponent .skimming) input value rest := by
  cases input with
  | nil => exact skims_digits_map read
  | cons c input =>
    by_cases minus : c = '-'
    · subst minus
      exact .afterOne rfl (skims_digits_map ((reads_afterOne_iff rfl).mp read))
    · by_cases plus : c = '+'
      · subst plus
        exact .afterOne rfl (skims_digits_map ((reads_afterOne_iff rfl).mp read))
      · rw [Reads, signedExponent_of_ne _ minus plus] at read ⊢
        exact skims_digits_map read

theorem skims_exponent {value : Option Int} (read : Reads (exponent .careful) input value rest) :
    Reads (exponent .skimming) input value rest := by
  cases input with
  | nil => exact read
  | cons c input =>
    by_cases mark : c = 'e' ∨ c = 'E'
    · rcases mark with rfl | rfl
      all_goals
        obtain ⟨power, signed, rfl⟩ := reads_map_iff.mp ((reads_afterOne_iff rfl).mp read)
        exact .afterOne rfl (skims_signedExponent signed).map
    · rw [not_or] at mark
      rw [Reads, exponent_of_ne _ mark.1 mark.2] at read ⊢
      exact read

theorem skims_magnitude {negative : Bool} {json : Json}
    (read : Reads (magnitude .careful negative) input json rest) :
    Reads (magnitude .skimming negative) input json rest := by
  obtain ⟨whole, middle, wholeRead, read⟩ := reads_andThen_iff.mp read
  obtain ⟨part, after, partRead, read⟩ := reads_andThen_iff.mp read
  obtain ⟨power, last, powerRead, read⟩ := reads_andThen_iff.mp read
  refine (skims_wholeDigits wholeRead).andThen ((skims_fraction partRead).andThen
    ((skims_exponent powerRead).andThen ?_))
  dsimp only at read ⊢
  split at read
  · split at read
    · exact absurd read not_reads_fail
    · exact read
  · exact read

end Numerals

/-! ## Strings -/

section Strings

theorem exists_of_reads_trailAfter {lead : Nat} {c : Char}
    (read : Reads (trailAfter lead) input c rest) :
    ∃ inner trail, input = '\\' :: 'u' :: inner ∧ Reads fourDigits inner trail rest := by
  obtain ⟨within, found⟩ := read
  unfold trailAfter at found
  split at found
  · cases found
  · split at found
    · cases reads_behind_iff.mp ⟨within, found⟩ |>.2
    · rename_i inner
      have second := reads_behind_iff.mp ⟨_, (reads_behind_iff.mp ⟨within, found⟩).2⟩
      obtain ⟨trail, _, digits, read⟩ := reads_andThen_iff.mp second
      refine ⟨inner, trail, rfl, ?_⟩
      split at read
      · obtain ⟨-, rfl⟩ := reads_done_iff.mp read
        exact digits
      · exact absurd read not_reads_fail
    · cases reads_behind_iff.mp ⟨within, found⟩ |>.2
  · cases found

theorem escape_of_ne (care : Care) {c : Char} (other : c ≠ 'u') (input : List Char) :
    escape care (c :: input) = escape .careful (c :: input) := by
  unfold escape
  dsimp only
  split <;> simp_all

theorem reads_textRest_cases {care : Care} {chars : List Char}
    (read : Reads (textRest care) input chars rest) :
    input = '"' :: rest ∨
    (∃ inner c after others, input = '\\' :: inner ∧ Reads (escape care) inner c after ∧
      Reads (textRest care) after others rest) ∨
    ∃ c inner others, input = c :: inner ∧ c ≠ '"' ∧ c ≠ '\\' ∧ ¬c < ' ' ∧
      Reads (textRest care) inner others rest := by
  obtain ⟨within, found⟩ := read
  cases input with
  | nil => simp [textRest] at found
  | cons c inner =>
    rw [textRest] at found
    split at found
    · rename_i quote
      cases found
      exact .inl (quote ▸ rfl)
    · rename_i open'
      split at found
      · rename_i backslash
        split at found
        · cases found
        · rename_i first escaped
          obtain ⟨_, found⟩ := reads_behind_iff.mp ⟨within, found⟩
          split at found
          · cases found
          · rename_i others after
            cases found
            exact .inr (.inl ⟨inner, _, _, _, backslash ▸ rfl, ⟨_, escaped⟩, ⟨_, after⟩⟩)
      · rename_i backslash
        split at found
        · cases found
        · rename_i plain
          split at found
          · cases found
          · rename_i others after
            cases found
            exact .inr (.inr ⟨c, inner, _, rfl, open', backslash, plain, ⟨_, after⟩⟩)

theorem reads_escape_code {care : Care} {c : Char} :
    Reads (escape care) ('u' :: input) c rest ↔ Reads (codeEscape care) input c rest :=
  reads_afterOne_iff rfl

theorem skims_code {unit : Nat} (read : Reads fourDigits input unit rest) :
    Reads (escape .skimming) ('u' :: input) (Char.ofNat unit) rest :=
  reads_escape_code.mpr (read.andThen (.done _ _))

theorem passes_escape {c : Char} {after : List Char} (read : Reads (escape .careful) input c after)
    (others : Passes (textRest .skimming) after rest) :
    Passes (textRest .skimming) ('\\' :: input) rest := by
  obtain ⟨others, passed⟩ := others
  cases input with
  | nil => cases read.2
  | cons letter input =>
    by_cases code : letter = 'u'
    · subst code
      obtain ⟨unit, middle, digits, read⟩ := reads_andThen_iff.mp (reads_escape_code.mp read)
      dsimp only at read
      split_ifs at read with trail lead
      · exact absurd read not_reads_fail
      · -- The second half is an escape of its own to the skimming reader.
        obtain ⟨inner, trail, rfl, more⟩ := exists_of_reads_trailAfter read
        exact ⟨_, reads_textRest_escape (skims_code digits)
          (reads_textRest_escape (skims_code more) passed)⟩
      · obtain ⟨-, rfl⟩ := reads_done_iff.mp read
        exact ⟨_, reads_textRest_escape (skims_code digits) passed⟩
    · have same : Reads (escape .skimming) (letter :: input) c after :=
        .congr (escape_of_ne .skimming code input) read
      exact ⟨_, reads_textRest_escape same passed⟩

theorem passes_textRest {chars : List Char} (read : Reads (textRest .careful) input chars rest) :
    Passes (textRest .skimming) input rest := by
  induction bound : input.length using Nat.strongRecOn generalizing input chars with
  | ind length ih =>
    rcases reads_textRest_cases read with rfl | ⟨inner, c, after, others, rfl, escaped, read⟩ |
      ⟨c, inner, others, rfl, quote, backslash, plain, read⟩
    · exact ⟨_, reads_textRest_end .skimming rest⟩
    · have shorter : after.length < length := by
        rw [← bound]
        exact Nat.lt_succ_of_le escaped.1
      exact passes_escape escaped (ih after.length shorter read rfl)
    · have shorter : inner.length < length := by
        rw [← bound]
        exact Nat.lt_succ_self _
      obtain ⟨others, passed⟩ := ih inner.length shorter read rfl
      exact ⟨_, reads_textRest_plain quote backslash plain passed⟩

theorem passes_textAfterQuote {text : String}
    (read : Reads (textAfterQuote .careful) input text rest) :
    Passes (textAfterQuote .skimming) input rest := by
  obtain ⟨chars, inner, rfl⟩ := reads_map_iff.mp read
  obtain ⟨others, passed⟩ := passes_textRest inner
  exact ⟨_, passed.map⟩

end Strings

theorem passes_scalar {json : Json} (read : ReadsScalar .careful input json rest) :
    ∃ passed, ReadsScalar .skimming input passed rest := by
  cases read with
  | null word => exact ⟨_, .null word⟩
  | yes word => exact ⟨_, .yes word⟩
  | no word => exact ⟨_, .no word⟩
  | text read =>
    obtain ⟨_, passed⟩ := passes_textAfterQuote read
    exact ⟨_, .text passed⟩
  | negative read => exact ⟨_, .negative (skims_magnitude read)⟩
  | positive digit read => exact ⟨_, .positive digit (skims_magnitude read)⟩

/-! ## Lists and objects -/

theorem length_lt_of_gap {c : Char} {inner : List Char}
    (tail : input.dropWhile isGap = c :: inner) : inner.length < input.length := by
  have gap := length_dropWhile_le isGap input
  rw [tail, List.length_cons] at gap
  exact gap

section Items

variable {α : Type u} {β : Type v} {item : Reading α} {lax : Reading β} {bound : Nat}
  (passes : ∀ input value rest, input.length ≤ bound → Reads item input value rest →
    Passes lax input rest)

include passes

theorem passes_moreItems {values : List α} (short : input.length ≤ bound)
    (read : Reads (moreItems .careful item) input values rest) :
    Passes (moreItems .skimming lax) input rest := by
  induction measured : input.length using Nat.strongRecOn generalizing input values with
  | ind length ih =>
    rcases reads_moreItems_cases.mp read with
      ⟨closed, rfl⟩ | ⟨inner, value, after, others, comma, -, first, more, rfl⟩
    · exact ⟨[], reads_moreItems_cases.mpr (.inl ⟨closed, rfl⟩)⟩
    · have behind := length_lt_of_gap comma
      have within := first.1
      obtain ⟨value, passed⟩ := passes inner value after (by omega) first
      obtain ⟨others, further⟩ := ih after.length (by omega) (by omega) more rfl
      exact ⟨value :: others, reads_moreItems_cases.mpr
        (.inr ⟨inner, value, after, others, comma, by simp, passed, further, rfl⟩)⟩

theorem passes_items {values : List α} (short : input.length ≤ bound)
    (read : Reads (items .careful item) input values rest) :
    Passes (items .skimming lax) input rest := by
  rcases reads_items_cases.mp read with
    ⟨closed, rfl⟩ | ⟨front, value, after, others, first, more, rfl⟩
  · exact ⟨[], reads_items_cases.mpr (.inl ⟨closed, rfl⟩)⟩
  · have within := first.1
    obtain ⟨value, passed⟩ := passes input value after short first
    obtain ⟨others, further⟩ := passes_moreItems passes (by omega) more
    exact ⟨value :: others, reads_items_cases.mpr
      (.inr ⟨front, value, after, others, passed, further, rfl⟩)⟩

end Items

theorem passes_nextName {name : String} (read : Reads (nextName .careful) input name rest) :
    Passes (nextName .skimming) input rest := by
  obtain ⟨inner, quote, read⟩ := reads_nextName_iff.mp read
  obtain ⟨called, passed⟩ := passes_textAfterQuote read
  exact ⟨called, reads_nextName_iff.mpr ⟨inner, quote, passed⟩⟩

section Members

variable {σ : Type u} {τ : Type v} {member : σ → String → Reading σ} {lax : τ → String → Reading τ}
  {bound : Nat}
  (passes : ∀ state name input reached rest, input.length ≤ bound →
    Reads (member state name) input reached rest →
      ∀ other called, Passes (lax other called) input rest)

include passes

theorem passes_member {state reached : σ} (short : input.length ≤ bound)
    (read : Reads ((nextName .careful).andThen (member state)) input reached rest) (other : τ) :
    Passes ((nextName .skimming).andThen (lax other)) input rest := by
  obtain ⟨name, middle, named, first⟩ := reads_andThen_iff.mp read
  obtain ⟨called, call⟩ := passes_nextName named
  obtain ⟨next, passed⟩ :=
    passes state name middle reached rest (Nat.le_trans named.1 short) first other called
  exact ⟨next, call.andThen passed⟩

theorem passes_moreMembers {state last : σ} (short : input.length ≤ bound)
    (read : Reads (moreMembers .careful member state) input last rest) (other : τ) :
    Passes (moreMembers .skimming lax other) input rest := by
  induction measured : input.length using Nat.strongRecOn generalizing input state other with
  | ind length ih =>
    rcases reads_moreMembers_cases.mp read with
      ⟨closed, rfl⟩ | ⟨inner, reached, after, comma, first, more⟩
    · exact ⟨other, reads_moreMembers_cases.mpr (.inl ⟨closed, rfl⟩)⟩
    · have behind := length_lt_of_gap comma
      have within := first.1
      obtain ⟨next, passed⟩ := passes_member passes (by omega) first other
      obtain ⟨final, others⟩ := ih after.length (by omega) (by omega) more next rfl
      exact ⟨final, reads_moreMembers_cases.mpr (.inr ⟨inner, next, after, comma, passed, others⟩)⟩

theorem passes_members {state last : σ} (short : input.length ≤ bound)
    (read : Reads (members .careful member state) input last rest) (other : τ) :
    Passes (members .skimming lax other) input rest := by
  rcases reads_members_cases.mp read with ⟨closed, rfl⟩ | ⟨reached, after, first, more⟩
  · exact ⟨other, reads_members_cases.mpr (.inl ⟨closed, rfl⟩)⟩
  · have within := first.1
    obtain ⟨next, passed⟩ := passes_member passes short first other
    obtain ⟨final, others⟩ := passes_moreMembers passes (by omega) more next
    exact ⟨final, reads_members_cases.mpr (.inr ⟨next, after, passed, others⟩)⟩

end Members

theorem passes_documentMember {depth left : Nat}
    (passes : ∀ {input : List Char} {json : Json} {rest : List Char}, input.length ≤ left →
      Reads (document .careful depth) input json rest → Passes (document .skimming left) input rest)
    (before : List (String × Json)) (name : String) (input : List Char)
    (reached : List (String × Json)) (rest : List Char) (short : input.length ≤ left)
    (read : Reads (documentMember .careful depth before name) input reached rest)
    (other : List (String × Json)) (called : String) :
    Passes (documentMember .skimming left other called) input rest := by
  obtain ⟨_, middle, mark, read⟩ := reads_andThen_iff.mp read
  obtain ⟨_, inside, rfl⟩ := reads_map_iff.mp read
  obtain ⟨_, passed⟩ := passes (Nat.le_trans mark.1 short) inside
  exact ⟨_, mark.andThen passed.map⟩

/-- A text that is no longer than the depth cannot use it up. -/
theorem passes_document {depth bound : Nat} {json : Json} (short : input.length ≤ bound)
    (read : Reads (document .careful depth) input json rest) :
    Passes (document .skimming bound) input rest := by
  induction depth generalizing bound input json rest with
  | zero =>
    cases reads_document_iff.mp read with
    | scalar tail read =>
      obtain ⟨_, passed⟩ := passes_scalar read
      exact ⟨_, reads_document_iff.mpr (.scalar tail passed)⟩
  | succ depth ih =>
    cases reads_document_iff.mp read with
    | scalar tail read =>
      obtain ⟨_, passed⟩ := passes_scalar read
      exact ⟨_, reads_document_iff.mpr (.scalar tail passed)⟩
    | list tail read =>
      have behind := length_lt_of_gap tail
      obtain ⟨left, rfl⟩ : ∃ left, bound = left + 1 := ⟨bound - 1, by omega⟩
      have within := Nat.le_of_lt_succ (Nat.lt_of_lt_of_le behind short)
      obtain ⟨_, passed⟩ := passes_items (fun _ _ _ => ih) within read
      exact ⟨_, reads_document_iff.mpr (.list tail passed)⟩
    | object tail read =>
      have behind := length_lt_of_gap tail
      obtain ⟨left, rfl⟩ : ∃ left, bound = left + 1 := ⟨bound - 1, by omega⟩
      have within := Nat.le_of_lt_succ (Nat.lt_of_lt_of_le behind short)
      obtain ⟨found, passed⟩ := passes_members (passes_documentMember ih) within read []
      refine ⟨.object found.reverse, reads_document_iff.mpr (.object tail ?_)⟩
      rw [List.reverse_reverse]
      exact passed

theorem reads_skim {depth : Nat} {json : Json}
    (read : Reads (document .careful depth) input json rest) : Reads skim input () rest := by
  obtain ⟨_, passed⟩ := passes_document (Nat.le_refl _) read
  obtain ⟨within, found⟩ := passed.map (f := fun _ => ())
  exact ⟨within, found⟩

end Tabular.Json
