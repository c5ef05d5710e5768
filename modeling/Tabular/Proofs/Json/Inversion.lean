import Tabular.Proofs.Json.Members
import Tabular.Proofs.Json.Scalar
import Tabular.Proofs.Number.Exact

/-! What the readers of documents have done.

The first character tells what a document is, and the document tells its first character. A scalar
is read off from there, and a list or an object opens and is read item by item or member by member
at one level less.
-/

set_option autoImplicit false

namespace Tabular.Json

open Text

universe u v

variable {care : Care} {input rest : List Char}

/-! ## Scalars -/

inductive ReadsScalar (care : Care) : List Char → Json → List Char → Prop where
  | null {inner rest : List Char} : Reads (wordRest ['u', 'l', 'l']) inner () rest →
      ReadsScalar care ('n' :: inner) .null rest
  | yes {inner rest : List Char} : Reads (wordRest ['r', 'u', 'e']) inner () rest →
      ReadsScalar care ('t' :: inner) (.boolean true) rest
  | no {inner rest : List Char} : Reads (wordRest ['a', 'l', 's', 'e']) inner () rest →
      ReadsScalar care ('f' :: inner) (.boolean false) rest
  | text {inner rest : List Char} {value : String} : Reads (textAfterQuote care) inner value rest →
      ReadsScalar care ('"' :: inner) (.text value) rest
  | negative {inner rest : List Char} {json : Json} : Reads (magnitude care true) inner json rest →
      ReadsScalar care ('-' :: inner) json rest
  | positive {c : Char} {inner rest : List Char} {json : Json} : isAsciiDigit c = true →
      Reads (magnitude care false) (c :: inner) json rest → ReadsScalar care (c :: inner) json rest

theorem reads_scalar_iff {json : Json} :
    Reads (scalar care) input json rest ↔ ReadsScalar care input json rest := by
  constructor
  · rintro ⟨within, found⟩
    cases input with
    | nil => cases found
    | cons c inner =>
      unfold scalar at found
      dsimp only at found
      split_ifs at found with null yes no quote minus digit
      · obtain ⟨_, word, rfl⟩ := reads_map_iff.mp (reads_behind_iff.mp ⟨within, found⟩)
        exact null ▸ .null word
      · obtain ⟨_, word, rfl⟩ := reads_map_iff.mp (reads_behind_iff.mp ⟨within, found⟩)
        exact yes ▸ .yes word
      · obtain ⟨_, word, rfl⟩ := reads_map_iff.mp (reads_behind_iff.mp ⟨within, found⟩)
        exact no ▸ .no word
      · obtain ⟨_, read, rfl⟩ := reads_map_iff.mp (reads_behind_iff.mp ⟨within, found⟩)
        exact quote ▸ .text read
      · exact minus ▸ .negative (reads_behind_iff.mp ⟨within, found⟩)
      · exact .positive digit ⟨within, found⟩
  · intro read
    cases read with
    | null word => exact .afterOne rfl word.map
    | yes word => exact .afterOne rfl word.map
    | no word => exact .afterOne rfl word.map
    | text read => exact .afterOne rfl read.map
    | negative read => exact .afterOne rfl read
    | positive digit read => exact reads_scalar_digit care digit read

theorem numeralValue_cases (negative : Bool) (whole part : List Char) (power : Option Int) :
    (∃ decimal : Number.Decimal, numeralValue negative whole part power =
      .real (Number.withSign negative decimal.toFloat)) ∨
    ∃ n : Int, numeralValue negative whole part power = .integer n ∧
      -(Number.signedLimit : Int) ≤ n ∧ n < Number.wordLimit := by
  have limits : Number.signedLimit < Number.wordLimit := by decide
  unfold numeralValue
  dsimp only
  split_ifs with marked minus range range
  · exact .inl ⟨_, rfl⟩
  · exact .inr ⟨_, rfl, by omega⟩
  · exact .inl ⟨_, rfl⟩
  · exact .inr ⟨_, rfl, by omega⟩
  · exact .inl ⟨_, rfl⟩

theorem legible_of_reads_magnitude {negative : Bool} {json : Json}
    (read : Reads (magnitude .careful negative) input json rest) :
    json.Legible ∧ ∃ x, json.asNumber = some x := by
  obtain ⟨whole, _, -, read⟩ := reads_andThen_iff.mp read
  obtain ⟨part, _, -, read⟩ := reads_andThen_iff.mp read
  obtain ⟨power, _, -, read⟩ := reads_andThen_iff.mp read
  dsimp only at read
  rcases numeralValue_cases negative whole part power with ⟨decimal, made⟩ | ⟨n, made, range⟩
  · rw [made] at read
    dsimp only at read
    split_ifs at read with infinite
    · exact absurd read not_reads_fail
    · obtain ⟨rfl, -⟩ := reads_done_iff.mp read
      have number := Number.isNaN_withSign negative (Number.isNaN_toFloat decimal)
      have finite := Bool.eq_false_of_not_eq_true infinite
      exact ⟨Bool.or_eq_false_iff.mpr ⟨number, finite⟩, _, rfl⟩
  · rw [made] at read
    obtain ⟨rfl, -⟩ := reads_done_iff.mp read
    exact ⟨range, _, rfl⟩

theorem ReadsScalar.legible {json : Json} (read : ReadsScalar .careful input json rest) :
    json.Legible := by
  cases read with
  | negative read => exact (legible_of_reads_magnitude read).1
  | positive _ read => exact (legible_of_reads_magnitude read).1
  | _ => trivial

theorem ReadsScalar.ne_of_cons {c : Char} {inner : List Char} {json : Json}
    (read : ReadsScalar care (c :: inner) json rest) : c ≠ '[' ∧ c ≠ '\x7b' := by
  cases read with
  | positive digit =>
    constructor <;> rintro rfl <;> cases digit
  | _ => decide

/-! ## Lists -/

section Items

variable {α : Type u} {item : Reading α}

theorem reads_moreItems_cases {values : List α} :
    Reads (moreItems care item) input values rest ↔
      input.dropWhile isGap = ']' :: rest ∧ values = [] ∨
      ∃ inner value after others, input.dropWhile isGap = ',' :: inner ∧
        ¬(care = .careful ∧ ahead inner = some ']') ∧ Reads item inner value after ∧
        Reads (moreItems care item) after others rest ∧ values = value :: others := by
  rw [Reads, moreItems, reads_behind_iff]
  dsimp only
  -- The bounds in the reader speak of this tail as well.
  generalize input.dropWhile isGap = tail
  cases tail with
  | nil => simp
  | cons c inner =>
    simp only [List.cons.injEq]
    by_cases closing : c = ']'
    · subst closing
      simp only [if_true]
      constructor
      · rintro ⟨_, closed⟩
        cases closed
        exact .inl ⟨⟨trivial, rfl⟩, rfl⟩
      · rintro (⟨⟨-, rfl⟩, rfl⟩ | ⟨_, _, _, _, ⟨different, -⟩, -⟩)
        · exact ⟨Nat.le_succ _, rfl⟩
        · exact absurd different (by decide)
    · by_cases comma : c = ','
      · subst comma
        simp only [closing, if_false, ne_eq, not_true_eq_false, false_and, false_or]
        constructor
        · rintro ⟨bound, read⟩
          split_ifs at read with trailing
          split at read
          · cases read
          · rename_i next first
            split at read
            · cases read
            · rename_i others more
              cases read
              exact ⟨inner, _, _, _, ⟨trivial, rfl⟩, trailing, ⟨next.within, first⟩,
                ⟨others.within, more⟩, rfl⟩
        · rintro ⟨_, value, after, others, ⟨-, rfl⟩, goes, ⟨bound, first⟩, ⟨further, more⟩, rfl⟩
          rw [if_neg goes, first]
          simp only [more]
          exact ⟨Nat.le_succ_of_le (Nat.le_trans further bound), trivial⟩
      · simp [closing, comma]

theorem reads_items_cases {values : List α} :
    Reads (items care item) input values rest ↔
      input.dropWhile isGap = ']' :: rest ∧ values = [] ∨
      (∃ c, ahead input = some c ∧ c ≠ ']') ∧ ∃ value after others, Reads item input value after ∧
        Reads (moreItems care item) after others rest ∧ values = value :: others := by
  constructor
  · rintro ⟨within, found⟩
    unfold items at found
    split at found
    · cases found
    · rename_i front
      rcases reads_moreItems_cases.mp ⟨within, found⟩ with closed | ⟨_, _, _, _, comma, -⟩
      · exact .inl closed
      · rw [ahead, comma] at front
        cases front
    · rename_i c other front
      split at found
      · cases found
      · rename_i first read
        obtain ⟨others, more, rfl⟩ := reads_map_iff.mp (reads_behind_iff.mp ⟨within, found⟩)
        exact .inr ⟨⟨c, front, fun closing => other (closing ▸ rfl)⟩, _, _, others,
          ⟨_, read⟩, more, rfl⟩
  · rintro (⟨closed, rfl⟩ | ⟨⟨c, front, other⟩, value, after, others, ⟨bound, first⟩, more, rfl⟩)
    · have front : ahead input = some ']' := by rw [ahead, closed, List.head?_cons]
      have empty : Reads (moreItems care item) input [] rest :=
        reads_moreItems_cases.mpr (.inl ⟨closed, rfl⟩)
      refine .congr ?_ empty
      rewrite [items, front]
      rfl
    · obtain ⟨further, read⟩ := more.map (f := fun others => value :: others)
      refine ⟨Nat.le_trans further bound, ?_⟩
      rw [items, front]
      split
      next none => cases none
      next closing => exact absurd (Option.some.inj closing) other
      next => simp only [first, read, behind]

end Items

/-! ## Documents -/

def documentMember (care : Care) (depth : Nat) (before : List (String × Json)) (name : String) :
    Reading (List (String × Json)) :=
  colon.andThen fun _ => (document care depth).map fun value => (name, value) :: before

inductive ReadsDocument (care : Care) : Nat → List Char → Json → List Char → Prop where
  | scalar {depth : Nat} {input inner rest : List Char} {json : Json} :
      input.dropWhile isGap = inner → ReadsScalar care inner json rest →
      ReadsDocument care depth input json rest
  | list {left : Nat} {input inner rest : List Char} {found : List Json} :
      input.dropWhile isGap = '[' :: inner →
      Reads (items care (document care left)) inner found rest →
      ReadsDocument care (left + 1) input (.list found) rest
  | object {left : Nat} {input inner rest : List Char} {found : List (String × Json)} :
      input.dropWhile isGap = '\x7b' :: inner →
      Reads (members care (documentMember care left) []) inner found.reverse rest →
      ReadsDocument care (left + 1) input (.object found) rest

theorem reads_document_iff {depth : Nat} {json : Json} :
    Reads (document care depth) input json rest ↔ ReadsDocument care depth input json rest := by
  constructor
  · intro read
    cases depth with
    | zero =>
      rw [document] at read
      have read := reads_afterGap_iff.mp read
      cases tail : input.dropWhile isGap with
      | nil =>
        rw [tail] at read
        cases read.2
      | cons c inner =>
        rw [tail] at read
        obtain ⟨within, found⟩ := read
        dsimp only at found
        split_ifs at found
        exact .scalar tail (reads_scalar_iff.mp ⟨within, found⟩)
    | succ left =>
      rw [document] at read
      have read := reads_afterGap_iff.mp read
      cases tail : input.dropWhile isGap with
      | nil =>
        rw [tail] at read
        cases read.2
      | cons c inner =>
        rw [tail] at read
        obtain ⟨within, found⟩ := read
        dsimp only at found
        split_ifs at found with list object
        · obtain ⟨_, inside, rfl⟩ := reads_map_iff.mp (reads_behind_iff.mp ⟨within, found⟩)
          exact .list (list ▸ tail) inside
        · obtain ⟨_, inside, rfl⟩ := reads_map_iff.mp (reads_behind_iff.mp ⟨within, found⟩)
          refine .object (object ▸ tail) ?_
          rw [List.reverse_reverse]
          exact inside
        · exact .scalar tail (reads_scalar_iff.mp ⟨within, found⟩)
  · intro read
    cases read with
    | @scalar depth _ inner _ json tail read =>
      obtain ⟨c, others, rfl⟩ : ∃ c others, inner = c :: others := by
        cases read <;> exact ⟨_, _, rfl⟩
      have opens := read.ne_of_cons
      cases depth with
      | zero =>
        rw [document]
        refine reads_afterGap_iff.mpr ?_
        rw [tail]
        refine .congr ?_ (reads_scalar_iff.mpr read)
        exact if_neg (not_or.mpr opens)
      | succ left =>
        rw [document]
        refine reads_afterGap_iff.mpr ?_
        rw [tail]
        refine .congr ?_ (reads_scalar_iff.mpr read)
        exact (if_neg opens.1).trans (if_neg opens.2)
    | list tail read =>
      rw [document]
      refine reads_afterGap_iff.mpr ?_
      rw [tail]
      exact .afterOne rfl read.map
    | object tail read =>
      rw [document]
      refine reads_afterGap_iff.mpr ?_
      rw [tail]
      have read := read.map (f := fun found => Json.object found.reverse)
      rw [List.reverse_reverse] at read
      exact .afterOne rfl read

/-! ## Documents by their first character -/

section First

variable {json : Json} {depth : Nat}

/-- Of the gap in front of a document nothing is kept. -/
theorem ReadsDocument.congr {other : List Char}
    (same : other.dropWhile isGap = input.dropWhile isGap)
    (read : ReadsDocument care depth input json rest) :
    ReadsDocument care depth other json rest := by
  cases read with
  | scalar tail read => exact .scalar (same.trans tail) read
  | list tail read => exact .list (same.trans tail) read
  | object tail read => exact .object (same.trans tail) read

theorem reads_document_dropWhile :
    Reads (document care depth) (input.dropWhile isGap) json rest ↔
      Reads (document care depth) input json rest := by
  have same : (input.dropWhile isGap).dropWhile isGap = input.dropWhile isGap :=
    List.dropWhile_idempotent (p := isGap) input
  simp only [reads_document_iff]
  exact ⟨.congr same.symm, .congr same⟩

theorem exists_text_of_quote {inner : List Char} (quote : input.dropWhile isGap = '"' :: inner)
    (read : Reads (document .careful depth) input json rest) :
    ∃ text, json = .text text ∧ Reads (textAfterQuote .careful) inner text rest := by
  cases reads_document_iff.mp read with
  | list tail => cases quote.symm.trans tail
  | object tail => cases quote.symm.trans tail
  | scalar tail read =>
    cases quote.symm.trans tail
    cases read with
    | text read => exact ⟨_, rfl, read⟩
    | positive digit => cases digit

theorem exists_quote_of_text {text : String}
    (read : Reads (document .careful depth) input (.text text) rest) :
    ∃ inner, input.dropWhile isGap = '"' :: inner ∧
      Reads (textAfterQuote .careful) inner text rest := by
  cases reads_document_iff.mp read with
  | scalar tail read =>
    cases read with
    | text read => exact ⟨_, tail, read⟩
    | negative read =>
      obtain ⟨-, _, number⟩ := legible_of_reads_magnitude read
      cases number
    | positive _ read =>
      obtain ⟨-, _, number⟩ := legible_of_reads_magnitude read
      cases number

theorem null_of_letter {inner : List Char} (letter : input.dropWhile isGap = 'n' :: inner)
    (read : Reads (document .careful depth) input json rest) :
    json = .null ∧ Reads (wordRest ['u', 'l', 'l']) inner () rest := by
  cases reads_document_iff.mp read with
  | list tail => cases letter.symm.trans tail
  | object tail => cases letter.symm.trans tail
  | scalar tail read =>
    cases letter.symm.trans tail
    cases read with
    | null word => exact ⟨rfl, word⟩
    | positive digit => cases digit

theorem exists_letter_of_null (read : Reads (document .careful depth) input .null rest) :
    ∃ inner, input.dropWhile isGap = 'n' :: inner := by
  cases reads_document_iff.mp read with
  | scalar tail read =>
    cases read with
    | null => exact ⟨_, tail⟩
    | negative read =>
      obtain ⟨-, _, number⟩ := legible_of_reads_magnitude read
      cases number
    | positive _ read =>
      obtain ⟨-, _, number⟩ := legible_of_reads_magnitude read
      cases number

theorem exists_items_of_bracket {inner : List Char} (bracket : input.dropWhile isGap = '[' :: inner)
    (read : Reads (document .careful depth) input json rest) :
    ∃ left found, depth = left + 1 ∧ json = .list found ∧
      Reads (items .careful (document .careful left)) inner found rest := by
  cases reads_document_iff.mp read with
  | list tail read =>
    cases bracket.symm.trans tail
    exact ⟨_, _, rfl, rfl, read⟩
  | object tail => cases bracket.symm.trans tail
  | scalar tail read =>
    cases bracket.symm.trans tail
    exact absurd rfl read.ne_of_cons.1

theorem exists_bracket_of_list {found : List Json}
    (read : Reads (document .careful depth) input (.list found) rest) :
    ∃ left inner, depth = left + 1 ∧ input.dropWhile isGap = '[' :: inner ∧
      Reads (items .careful (document .careful left)) inner found rest := by
  cases reads_document_iff.mp read with
  | list tail read => exact ⟨_, _, rfl, tail, read⟩
  | scalar _ read => exact absurd read.legible id

theorem exists_members_of_brace {inner : List Char}
    (brace : input.dropWhile isGap = '\x7b' :: inner)
    (read : Reads (document .careful depth) input json rest) :
    ∃ left found, depth = left + 1 ∧ json = .object found ∧
      Reads (members .careful (documentMember .careful left) []) inner found.reverse rest := by
  cases reads_document_iff.mp read with
  | list tail => cases brace.symm.trans tail
  | object tail read =>
    cases brace.symm.trans tail
    exact ⟨_, _, rfl, rfl, read⟩
  | scalar tail read =>
    cases brace.symm.trans tail
    exact absurd rfl read.ne_of_cons.2

theorem exists_brace_of_object {found : List (String × Json)}
    (read : Reads (document .careful depth) input (.object found) rest) :
    ∃ left inner, depth = left + 1 ∧ input.dropWhile isGap = '\x7b' :: inner ∧
      Reads (members .careful (documentMember .careful left) []) inner found.reverse rest := by
  cases reads_document_iff.mp read with
  | object tail read => exact ⟨_, _, rfl, tail, read⟩
  | scalar _ read => exact absurd read.legible id

end First

end Tabular.Json
