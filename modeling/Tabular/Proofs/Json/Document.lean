import Tabular.Json.Document
import Tabular.Proofs.Json.Scalar

/-! Printed lists, objects and documents read back.

A printed document is followed by a comma, by a closing bracket or by nothing, none of which a
numeral goes on with. So each document is taken off the text by itself.
-/

set_option autoImplicit false

namespace Tabular.Json

open Text

universe u v

variable {α : Type u}

/-- The reader takes this text off the front of every input that goes on after a value. -/
def Takes (reader : Reading α) (text : List Char) (value : α) : Prop :=
  ∀ rest, Stops inNumeral rest → Reads reader (text ++ rest) value rest

theorem reads_afterGap {reader : Reading α} {c : Char} {input rest : List Char} {value : α}
    (solid : isGap c = false) (read : Reads reader (c :: input) value rest) :
    Reads (afterGap reader) (c :: input) value rest := by
  have same : (c :: input).dropWhile isGap = c :: input := by simp [solid]
  rw [← same] at read
  obtain ⟨within, found⟩ := read
  refine ⟨Nat.le_trans within (length_dropWhile_le isGap _), ?_⟩
  simp only [afterGap, found, behind]

theorem ahead_cons {c : Char} (solid : isGap c = false) (rest : List Char) :
    ahead (c :: rest) = some c := by
  simp [ahead, solid]

theorem reads_colon (rest : List Char) : Reads colon (':' :: rest) () rest :=
  reads_afterGap rfl (.afterOne rfl (.done () rest))

/-! ## The first character of a printed document -/

def opensScalar (c : Char) : Bool := isAsciiDigit c || ['n', 't', 'f', '"', '-'].contains c

theorem ne_of_opensScalar {c mark : Char} (first : opensScalar c = true)
    (other : opensScalar mark = false) : c ≠ mark := by
  rintro rfl
  exact Bool.false_ne_true (other.symm.trans first)

theorem isGap_of_opensScalar {c : Char} (first : opensScalar c = true) : isGap c = false := by
  simp only [isGap, Bool.or_eq_false_iff, beq_eq_false_iff_ne]
  exact ⟨⟨⟨ne_of_opensScalar first rfl, ne_of_opensScalar first rfl⟩,
    ne_of_opensScalar first rfl⟩, ne_of_opensScalar first rfl⟩

theorem opensScalar_of_isAsciiDigit {c : Char} (digit : isAsciiDigit c = true) :
    opensScalar c = true := by
  simp [opensScalar, digit]

theorem exists_toDigits_cons (n : Nat) :
    ∃ c rest, Nat.toDigits 10 n = c :: rest ∧ opensScalar c = true := by
  obtain ⟨c, rest, chars, digit⟩ := exists_chars_cons (printedNat n)
  exact ⟨c, rest, (chars_printedNat n).symm.trans chars, opensScalar_of_isAsciiDigit digit⟩

theorem exists_printReal_cons (x : Float) :
    ∃ c rest, printReal x = c :: rest ∧ opensScalar c = true := by
  by_cases finite : Number.IsFinite x
  · obtain ⟨printed, text, -⟩ := exists_printed_printReal finite
    rw [text]
    cases Number.isNegative x with
    | true => exact ⟨'-', printed.chars, rfl, rfl⟩
    | false =>
      obtain ⟨c, rest, chars, digit⟩ := exists_chars_cons printed
      exact ⟨c, rest, chars, opensScalar_of_isAsciiDigit digit⟩
  · refine ⟨'n', ['u', 'l', 'l'], ?_, rfl⟩
    rw [printReal, if_pos (Bool.not_eq_false _ ▸ finite)]

theorem exists_compact_cons (json : Json) :
    ∃ c rest, json.compact = c :: rest ∧
      (opensScalar c = true ∨ ¬json.Legible ∧ (c = '[' ∨ c = '\x7b')) := by
  cases json with
  | null => exact ⟨'n', _, rfl, .inl rfl⟩
  | boolean value => cases value <;> exact ⟨_, _, rfl, .inl rfl⟩
  | integer value =>
    rw [compact]
    rcases lt_or_ge value 0 with negative | nonnegative
    · obtain ⟨n, rfl⟩ : ∃ n : Nat, value = -n := ⟨value.natAbs, by omega⟩
      exact ⟨'-', _, toList_toString_neg (by omega), .inl rfl⟩
    · obtain ⟨n, rfl⟩ : ∃ n : Nat, value = n := ⟨value.toNat, by omega⟩
      obtain ⟨c, rest, digits, first⟩ := exists_toDigits_cons n
      exact ⟨c, rest, (toList_toString_natCast n).trans digits, .inl first⟩
  | real value =>
    rw [compact]
    obtain ⟨c, rest, text, first⟩ := exists_printReal_cons value
    exact ⟨c, rest, text, .inl first⟩
  | text value => exact ⟨'"', _, by rw [compact, printText], .inl rfl⟩
  | list items => exact ⟨'[', _, by rw [compact], .inr ⟨id, .inl rfl⟩⟩
  | object members => exact ⟨'\x7b', _, by rw [compact], .inr ⟨id, .inr rfl⟩⟩

/-- No printed document starts with a gap or ends a list at once. -/
theorem exists_compact_cons_solid (json : Json) :
    ∃ c rest, json.compact = c :: rest ∧ isGap c = false ∧ c ≠ ']' := by
  obtain ⟨c, rest, text, first | ⟨-, rfl | rfl⟩⟩ := exists_compact_cons json
  · exact ⟨c, rest, text, isGap_of_opensScalar first, ne_of_opensScalar first rfl⟩
  · exact ⟨_, rest, text, rfl, by decide⟩
  · exact ⟨_, rest, text, rfl, by decide⟩

theorem ahead_compact (json : Json) (rest : List Char) :
    ∃ c, ahead (json.compact ++ rest) = some c ∧ c ≠ ']' := by
  obtain ⟨c, others, text, solid, open'⟩ := exists_compact_cons_solid json
  exact ⟨c, by rw [text, List.cons_append, ahead_cons solid], open'⟩

theorem takes_document {care : Care} {json : Json} (legible : json.Legible) (depth : Nat) :
    Takes (document care depth) json.compact json := by
  intro rest stops
  have read := reads_scalar care legible stops
  obtain ⟨c, others, text, first | ⟨parts, -⟩⟩ := exists_compact_cons json
  · have list : c ≠ '[' := ne_of_opensScalar first rfl
    have object : c ≠ '\x7b' := ne_of_opensScalar first rfl
    rw [text, List.cons_append] at read ⊢
    cases depth with
    | zero =>
      rw [document]
      refine reads_afterGap (isGap_of_opensScalar first) (.congr ?_ read)
      exact if_neg (not_or.mpr ⟨list, object⟩)
    | succ depth =>
      rw [document]
      refine reads_afterGap (isGap_of_opensScalar first) (.congr ?_ read)
      exact (if_neg list).trans (if_neg object)
  · exact absurd legible parts

/-! ## Lists -/

theorem compactItems_cons (item : Json) (others : List Json) :
    compactItems (item :: others) =
      item.compact ++ others.flatMap fun other => ',' :: other.compact := by
  induction others generalizing item with
  | nil => simp [compactItems]
  | cons next others ih => rw [compactItems, ih next, List.flatMap_cons, List.cons_append]

theorem reads_moreItems_end (reader : Reading α) (rest : List Char) :
    Reads (moreItems .careful reader) (']' :: rest) [] rest := by
  refine ⟨Nat.le_succ _, ?_⟩
  rw [moreItems]
  rfl

theorem reads_moreItems_comma {reader : Reading α} {input middle rest : List Char} {value : α}
    {values : List α} (goes : ahead input ≠ some ']') (first : Reads reader input value middle)
    (others : Reads (moreItems .careful reader) middle values rest) :
    Reads (moreItems .careful reader) (',' :: input) (value :: values) rest := by
  obtain ⟨within, found⟩ := first
  obtain ⟨further, read⟩ := others
  refine ⟨Nat.le_succ_of_le (Nat.le_trans further within), ?_⟩
  rw [moreItems]
  -- The gap before the comma is empty by computation.
  change @behind Fault (List α) (',' :: input) (',' :: input) _ (if ',' = ']' then _ else
    if ',' ≠ ',' then _ else
    if Care.careful = Care.careful ∧ ahead input = some ']' then _ else _) = _
  rw [if_neg (by decide), if_neg (by decide), if_neg (fun closing => goes closing.2)]
  simp only [found, read, behind]

section Items

variable {reader : Reading α} {jsons : List Json} {values : List α}

theorem stops_moreItems (jsons : List Json) (rest : List Char) :
    Stops inNumeral ((jsons.flatMap fun json => ',' :: json.compact) ++ ']' :: rest) := by
  cases jsons with
  | nil => exact stops_cons rfl rest
  | cons json jsons => exact stops_cons rfl _

theorem reads_moreItems
    (taken : List.Forall₂ (fun json value => Takes reader json.compact value) jsons values)
    (rest : List Char) :
    Reads (moreItems .careful reader)
      ((jsons.flatMap fun json => ',' :: json.compact) ++ ']' :: rest) values rest := by
  -- Each item ends where its text does, for a comma or the bracket comes next.
  induction taken with
  | nil => exact reads_moreItems_end reader rest
  | @cons json value jsons values first others ih =>
    rw [List.flatMap_cons, List.cons_append, List.cons_append, List.append_assoc]
    obtain ⟨c, found, goes⟩ := ahead_compact json
      ((jsons.flatMap fun json => ',' :: json.compact) ++ ']' :: rest)
    refine reads_moreItems_comma ?_ (first _ (stops_moreItems jsons rest)) ih
    rw [found]
    exact fun closing => goes (Option.some.inj closing)

theorem reads_items
    (taken : List.Forall₂ (fun json value => Takes reader json.compact value) jsons values)
    (rest : List Char) :
    Reads (items .careful reader) (compactItems jsons ++ ']' :: rest) values rest := by
  cases taken with
  | nil => exact .congr rfl (reads_moreItems_end reader rest)
  | @cons json value jsons values first others =>
    rw [compactItems_cons, List.append_assoc]
    obtain ⟨c, found, goes⟩ := ahead_compact json
      ((jsons.flatMap fun json => ',' :: json.compact) ++ ']' :: rest)
    obtain ⟨within, read⟩ := first _ (stops_moreItems jsons rest)
    obtain ⟨further, remaining⟩ :=
      (reads_moreItems others rest).map (f := fun others => value :: others)
    refine ⟨Nat.le_trans further within, ?_⟩
    unfold items
    rw [found]
    split
    next none => cases none
    next closing => exact absurd (Option.some.inj closing) goes
    next => simp only [read, remaining, behind]

end Items

/-! ## Objects -/

def memberChars (member : String × Json) : List Char :=
  printText member.1 ++ ':' :: member.2.compact

theorem compactMembers_cons (member : String × Json) (others : List (String × Json)) :
    compactMembers (member :: others) =
      memberChars member ++ others.flatMap fun other => ',' :: memberChars other := by
  induction others generalizing member with
  | nil => simp [compactMembers, memberChars]
  | cons next others ih =>
    rw [compactMembers, ih next]
    simp only [memberChars, List.flatMap_cons, List.cons_append, List.append_assoc]

section Members

variable {σ : Type u} {reader : σ → String → Reading σ}

inductive TakesMembers (reader : σ → String → Reading σ) : σ → List (String × Json) → σ → Prop where
  | nil (state : σ) : TakesMembers reader state [] state
  | cons {state next last : σ} {name : String} {json : Json} {others : List (String × Json)} :
      Takes (reader state name) (':' :: json.compact) next → TakesMembers reader next others last →
      TakesMembers reader state ((name, json) :: others) last

theorem takes_member {β : Type v} {inner : Reading β} {json : Json} {value : β} (f : β → σ)
    (taken : Takes inner json.compact value) :
    Takes (colon.andThen fun _ => inner.map f) (':' :: json.compact) (f value) :=
  fun rest stops => (reads_colon _).andThen (taken rest stops).map

theorem stops_moreMembers (members : List (String × Json)) (rest : List Char) :
    Stops inNumeral
      ((members.flatMap fun member => ',' :: memberChars member) ++ '\x7d' :: rest) := by
  cases members with
  | nil => exact stops_cons rfl rest
  | cons member members => exact stops_cons rfl _

theorem reads_moreMembers_end (state : σ) (rest : List Char) :
    Reads (moreMembers .careful reader state) ('\x7d' :: rest) state rest := by
  refine ⟨Nat.le_succ _, ?_⟩
  rw [moreMembers]
  rfl

theorem reads_moreMembers_comma {state next last : σ} {input middle rest : List Char}
    (first : Reads ((nextName .careful).andThen (reader state)) input next middle)
    (others : Reads (moreMembers .careful reader next) middle last rest) :
    Reads (moreMembers .careful reader state) (',' :: input) last rest := by
  obtain ⟨within, found⟩ := first
  obtain ⟨further, read⟩ := others
  refine ⟨Nat.le_succ_of_le (Nat.le_trans further within), ?_⟩
  rw [moreMembers]
  change @behind Fault σ (',' :: input) (',' :: input) _ (if ',' = '\x7d' then _ else
    if ',' ≠ ',' then _ else _) = _
  rw [if_neg (by decide), if_neg (by decide)]
  simp only [found, read, behind]

theorem reads_nextName (name : String) (rest : List Char) :
    Reads (nextName .careful) (printText name ++ rest) name rest := by
  rw [printText, List.cons_append, List.append_assoc]
  exact reads_afterGap rfl (.afterOne rfl (reads_printText .careful name rest))

theorem reads_moreMembers {state last : σ} {found : List (String × Json)}
    (taken : TakesMembers reader state found last) (rest : List Char) :
    Reads (moreMembers .careful reader state)
      ((found.flatMap fun member => ',' :: memberChars member) ++ '\x7d' :: rest) last rest := by
  induction taken with
  | nil state => exact reads_moreMembers_end state rest
  | @cons state next last name json others first after ih =>
    rw [List.flatMap_cons, List.cons_append, List.cons_append, memberChars, List.append_assoc,
      List.append_assoc]
    exact reads_moreMembers_comma
      ((reads_nextName name _).andThen (first _ (stops_moreMembers others rest))) ih

theorem reads_members {state last : σ} {found : List (String × Json)}
    (taken : TakesMembers reader state found last) (rest : List Char) :
    Reads (members .careful reader state) (compactMembers found ++ '\x7d' :: rest) last rest := by
  cases taken with
  | nil => exact reads_afterGap rfl ⟨Nat.le_succ _, rfl⟩
  | @cons _ next _ name json others first after =>
    rw [compactMembers_cons, memberChars, printText, List.append_assoc, List.append_assoc,
      List.cons_append, List.append_assoc]
    refine reads_afterGap rfl (.afterOne rfl ?_)
    exact (reads_printText .careful name _).andThen
      ((first _ (stops_moreMembers others rest)).andThen (reads_moreMembers after rest))

/-- An object lies one level above its deepest member. -/
theorem takes_document_object {depth : Nat} {found : List (String × Json)}
    (taken : ∀ member ∈ found, Takes (document .careful depth) member.2.compact member.2) :
    Takes (document .careful (depth + 1)) (Json.object found).compact (.object found) := by
  -- Members are put in front of those before them.
  have walk (before : List (String × Json)) :
      TakesMembers
        (fun before name => colon.andThen fun _ =>
          (document .careful depth).map fun value => (name, value) :: before)
        before found (found.reverse ++ before) := by
    induction found generalizing before with
    | nil => exact .nil before
    | cons member rest ih =>
      have others := ih (fun member there => taken member (List.mem_cons_of_mem _ there))
        (member :: before)
      rw [List.reverse_cons, List.append_assoc]
      exact .cons (takes_member (fun value => (member.1, value) :: before)
        (taken member List.mem_cons_self)) others
  intro rest _
  rw [compact, List.cons_append, List.append_assoc, document]
  refine reads_afterGap rfl (.afterOne rfl ?_)
  have read := (reads_members (walk []) rest).map (f := fun found => Json.object found.reverse)
  rwa [List.append_nil, List.reverse_reverse] at read

end Members

/-! ## Documents of any depth -/

theorem takes_document_list {depth : Nat} {jsons : List Json}
    (taken : ∀ json ∈ jsons, Takes (document .careful depth) json.compact json) :
    Takes (document .careful (depth + 1)) (Json.list jsons).compact (.list jsons) := by
  intro rest _
  rw [compact, List.cons_append, List.append_assoc, document]
  refine reads_afterGap rfl (.afterOne rfl ?_)
  have each : List.Forall₂ (fun json value => Takes (document .careful depth) json.compact value)
      jsons jsons := List.forall₂_same.mpr taken
  exact (reads_items each rest).map

/-- Documents within the limits of the reader: at most so many lists and objects inside one
another, and numbers that are printed as numerals. -/
inductive Readable : Nat → Json → Prop where
  | scalar {depth : Nat} {json : Json} : json.Legible → Readable depth json
  | list {depth : Nat} {items : List Json} : (∀ item ∈ items, Readable depth item) →
      Readable (depth + 1) (.list items)
  | object {depth : Nat} {members : List (String × Json)} :
      (∀ member ∈ members, Readable depth member.2) → Readable (depth + 1) (.object members)

theorem Readable.takes {depth : Nat} {json : Json} (readable : Readable depth json) :
    Takes (document .careful depth) json.compact json := by
  induction readable with
  | scalar legible => exact takes_document legible _
  | list _ ih => exact takes_document_list ih
  | object _ ih => exact takes_document_object ih

end Tabular.Json
