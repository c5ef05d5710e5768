import Tabular.Proofs.Json.Form
import Tabular.Proofs.Json.Record
import Tabular.Proofs.Json.Skimming

/-! The two ways of a form agree.

Where a text can be read as a document, a form takes off the text what it takes from the document,
and leaves the same. There is one lemma for each way to make a form, given the same of the forms it
is made from.
-/

set_option autoImplicit false

namespace Tabular.Json

open Text

universe u v w

/-- Where the second reader gives something, the first gives what `f` makes of it, if it makes
anything, and both leave the same. -/
def Agrees {α : Type u} {β : Type v} (reader : Reading α) (whole : Reading β) (f : β → Option α) :
    Prop :=
  ∀ (input : List Char) (found : β) (rest : List Char), Reads whole input found rest →
    ∀ (value : α) (last : List Char),
      Reads reader input value last ↔ f found = some value ∧ last = rest

def Form.Faithful {α : Type} (form : Form α) : Prop :=
  ∀ depth, Agrees (form.read depth) (document .careful depth) form.ofJson?

variable {input rest last : List Char} {json : Json} {depth : Nat}

theorem agrees_behind {α : Type u} {β : Type v} {γ : Type w} {reader : Reading α}
    {whole : Reading β} {f : β → Option α} (before : Reading γ) (agrees : Agrees reader whole f) :
    Agrees (before.andThen fun _ => reader) (before.andThen fun _ => whole) f := by
  intro input found rest read value last
  obtain ⟨mark, middle, between, given⟩ := reads_andThen_iff.mp read
  rw [reads_andThen_iff]
  constructor
  · rintro ⟨_, _, again, read⟩
    obtain ⟨rfl, rfl⟩ := between.unique again
    exact (agrees _ _ _ given _ _).mp read
  · intro made
    exact ⟨mark, middle, between, (agrees _ _ _ given _ _).mpr made⟩

/-! ## Items -/

section Items

variable {α : Type u} {β : Type u} {item : Reading α} {whole : Reading β} {f : β → Option α}

theorem mapM_cons_eq_some_iff {first : β} {others : List β} {values : List α} :
    List.mapM f (first :: others) = some values ↔
      ∃ value rest, f first = some value ∧ List.mapM f others = some rest ∧
        values = value :: rest := by
  simp only [List.mapM_cons, Option.bind_eq_bind, Option.bind_eq_some_iff, Option.pure_def,
    Option.some.injEq]
  constructor
  · rintro ⟨value, made, rest, makes, rfl⟩
    exact ⟨value, rest, made, makes, rfl⟩
  · rintro ⟨value, rest, made, makes, rfl⟩
    exact ⟨value, made, rest, makes, rfl⟩

theorem agrees_moreItems (agrees : Agrees item whole f) :
    Agrees (moreItems .careful item) (moreItems .careful whole) (List.mapM f) := by
  intro input found rest read values last
  -- The documents that have been read say how often there is a comma.
  induction found generalizing input values with
  | nil =>
    rcases reads_moreItems_cases.mp read with ⟨closed, -⟩ | ⟨_, _, _, _, _, _, _, _, same⟩
    · rw [reads_moreItems_cases]
      simp [closed, eq_comm, and_comm]
    · cases same
  | cons first others ih =>
    rcases reads_moreItems_cases.mp read with
      ⟨-, same⟩ | ⟨inner, _, after, _, comma, goes, given, more, same⟩
    · cases same
    · cases same
      rw [reads_moreItems_cases, mapM_cons_eq_some_iff]
      constructor
      · rintro (⟨closed, -⟩ | ⟨_, value, middle, remaining, again, -, read, further, rfl⟩)
        · cases comma.symm.trans closed
        · cases comma.symm.trans again
          obtain ⟨made, rfl⟩ := (agrees _ _ _ given _ _).mp read
          obtain ⟨makes, rfl⟩ := (ih _ more _).mp further
          exact ⟨⟨value, remaining, made, makes, rfl⟩, rfl⟩
      · rintro ⟨⟨value, remaining, made, makes, rfl⟩, rfl⟩
        exact .inr ⟨inner, value, after, remaining, comma, goes,
          (agrees _ _ _ given _ _).mpr ⟨made, rfl⟩, (ih _ more _).mpr ⟨makes, rfl⟩, rfl⟩

theorem agrees_items (agrees : Agrees item whole f) :
    Agrees (items .careful item) (items .careful whole) (List.mapM f) := by
  intro input found rest read values last
  rw [reads_items_cases]
  rcases reads_items_cases.mp read with
    ⟨closed, rfl⟩ | ⟨⟨c, front, other⟩, first, after, others, given, more, rfl⟩
  · have ends : ahead input = some ']' := by rw [ahead, closed, List.head?_cons]
    simp [closed, ends, eq_comm, and_comm]
  · have opens : ∀ rest, input.dropWhile isGap ≠ ']' :: rest := by
      intro rest closed
      rw [ahead, closed] at front
      cases front
      exact other rfl
    rw [mapM_cons_eq_some_iff]
    constructor
    · rintro (⟨closed, -⟩ | ⟨-, value, middle, remaining, read, further, rfl⟩)
      · exact absurd closed (opens _)
      · obtain ⟨made, rfl⟩ := (agrees _ _ _ given _ _).mp read
        obtain ⟨makes, rfl⟩ := (agrees_moreItems agrees _ _ _ more _ _).mp further
        exact ⟨⟨value, remaining, made, makes, rfl⟩, rfl⟩
    · rintro ⟨⟨value, remaining, made, makes, rfl⟩, rfl⟩
      exact .inr ⟨⟨c, front, other⟩, value, after, remaining,
        (agrees _ _ _ given _ _).mpr ⟨made, rfl⟩,
        (agrees_moreItems agrees _ _ _ more _ _).mpr ⟨makes, rfl⟩, rfl⟩

end Items

/-! ## Forms of single documents -/

namespace Form

variable {α : Type} {form : Form α}

theorem faithful_anyOf (name : String) (f : Json → Option α) : (anyOf name f).Faithful := by
  intro depth input json rest whole value last
  rw [reads_anyOf_iff]
  constructor
  · rintro ⟨other, read, made⟩
    obtain ⟨rfl, rfl⟩ := whole.unique read
    exact ⟨made, rfl⟩
  · rintro ⟨made, rfl⟩
    exact ⟨json, whole, made⟩

theorem faithful_ofDocument (f : Json → α) : (ofDocument f).Faithful := by
  intro depth input json rest whole value last
  constructor
  · intro read
    obtain ⟨other, again, rfl⟩ := reads_map_iff.mp read
    obtain ⟨rfl, rfl⟩ := whole.unique again
    exact ⟨rfl, rfl⟩
  · rintro ⟨made, rfl⟩
    cases made
    exact whole.map

theorem reads_textCalled_iff {expected value : String} :
    Reads ((textCalled expected).read depth) input value rest ↔
      ∃ inner, input.dropWhile isGap = '"' :: inner ∧
        Reads (textAfterQuote .careful) inner value rest := by
  simp only [textCalled]
  refine Iff.trans reads_afterGap_iff ?_
  generalize input.dropWhile isGap = tail
  cases tail with
  | nil => simp [Reads]
  | cons c inner =>
    constructor
    · rintro ⟨within, found⟩
      dsimp only at found
      split at found
      · rename_i quote
        exact ⟨inner, quote ▸ rfl, reads_behind_iff.mp ⟨within, found⟩⟩
      · exact absurd ⟨within, found⟩ not_reads_mismatch
    · rintro ⟨_, same, read⟩
      cases same
      exact .afterOne rfl read

theorem faithful_textCalled (expected : String) : (textCalled expected).Faithful := by
  intro depth input json rest whole value last
  rw [reads_textCalled_iff]
  constructor
  · rintro ⟨inner, quote, read⟩
    obtain ⟨text, rfl, again⟩ := exists_text_of_quote quote whole
    obtain ⟨rfl, rfl⟩ := again.unique read
    exact ⟨rfl, rfl⟩
  · rintro ⟨made, rfl⟩
    obtain rfl := asText_eq_some_iff.mp made
    exact exists_quote_of_text whole

theorem ofJson?_optional (given : json ≠ .null) :
    form.optional.ofJson? json = (form.ofJson? json).map some := by
  cases json with
  | null => exact absurd rfl given
  | _ => rfl

theorem reads_optional_iff {value : Option α} :
    Reads (form.optional.read depth) input value rest ↔
      (∃ inner, input.dropWhile isGap = 'n' :: inner ∧
        Reads (wordRest ['u', 'l', 'l']) inner () rest ∧ value = none) ∨
      (∀ inner, input.dropWhile isGap ≠ 'n' :: inner) ∧
        ∃ found, Reads (form.read depth) (input.dropWhile isGap) found rest ∧
          value = some found := by
  simp only [optional]
  refine Iff.trans reads_afterGap_iff ?_
  generalize input.dropWhile isGap = tail
  cases tail with
  | nil =>
    refine Iff.trans ⟨.congr rfl, .congr rfl⟩ (reads_map_iff.trans ?_)
    simp
  | cons c inner =>
    by_cases letter : c = 'n'
    · subst letter
      refine Iff.trans (reads_afterOne_iff rfl) (reads_map_iff.trans ?_)
      constructor
      · rintro ⟨_, word, rfl⟩
        exact .inl ⟨inner, rfl, word, rfl⟩
      · rintro (⟨_, same, word, rfl⟩ | ⟨other, -⟩)
        · cases same
          exact ⟨(), word, rfl⟩
        · exact absurd rfl (other inner)
    · refine Iff.trans ⟨.congr (if_neg letter).symm, .congr (if_neg letter)⟩
        (reads_map_iff.trans ?_)
      simp [letter]

theorem faithful_optional (faithful : form.Faithful) : form.optional.Faithful := by
  intro depth input json rest whole value last
  rw [reads_optional_iff]
  have agrees := faithful _ _ _ _ (reads_document_dropWhile.mpr whole)
  constructor
  · rintro (⟨inner, letter, word, rfl⟩ | ⟨other, found, read, rfl⟩)
    · obtain ⟨rfl, again⟩ := null_of_letter letter whole
      exact ⟨rfl, (again.unique word).2⟩
    · obtain ⟨made, rfl⟩ := (agrees _ _).mp read
      have given : json ≠ .null := by
        rintro rfl
        obtain ⟨inner, letter⟩ := exists_letter_of_null whole
        exact other inner letter
      rw [ofJson?_optional given, made]
      exact ⟨rfl, rfl⟩
  · rintro ⟨made, rfl⟩
    by_cases null : json = .null
    · subst null
      obtain ⟨inner, letter⟩ := exists_letter_of_null whole
      cases made
      exact .inl ⟨inner, letter, (null_of_letter letter whole).2, rfl⟩
    · rw [ofJson?_optional null, Option.map_eq_some_iff] at made
      obtain ⟨found, made, rfl⟩ := made
      refine .inr ⟨fun inner letter => null (null_of_letter letter whole).1, found, ?_, rfl⟩
      exact (agrees _ _).mpr ⟨made, rfl⟩

theorem reads_list_iff {values : List α} :
    Reads (form.list.read depth) input values rest ↔
      ∃ left inner, depth = left + 1 ∧ input.dropWhile isGap = '[' :: inner ∧
        Reads (items .careful (form.read left)) inner values rest := by
  simp only [list]
  refine Iff.trans reads_afterGap_iff ?_
  generalize input.dropWhile isGap = tail
  cases tail with
  | nil => simp [Reads]
  | cons c inner =>
    constructor
    · rintro ⟨within, found⟩
      dsimp only at found
      split at found
      · rename_i bracket
        obtain ⟨left, rfl, read⟩ := reads_enter_iff.mp (reads_behind_iff.mp ⟨within, found⟩)
        exact ⟨left, inner, rfl, bracket ▸ rfl, read⟩
      · exact absurd ⟨within, found⟩ not_reads_mismatch
    · rintro ⟨left, _, rfl, same, read⟩
      cases same
      exact .afterOne rfl (reads_enter_iff.mpr ⟨left, rfl, read⟩)

theorem faithful_list (faithful : form.Faithful) : form.list.Faithful := by
  intro depth input json rest whole values last
  rw [reads_list_iff]
  constructor
  · rintro ⟨left, inner, rfl, bracket, read⟩
    obtain ⟨_, found, same, rfl, given⟩ := exists_items_of_bracket bracket whole
    cases same
    exact (agrees_items (faithful left) _ _ _ given _ _).mp read
  · rintro ⟨made, rfl⟩
    cases json with
    | list found =>
      obtain ⟨left, inner, rfl, bracket, given⟩ := exists_bracket_of_list whole
      exact ⟨left, inner, rfl, bracket, (agrees_items (faithful left) _ _ _ given _ _).mpr
        ⟨made, rfl⟩⟩
    | _ => cases made

end Form

/-! ## Records -/

section Records

variable {α : Type}

namespace Fields

def Faithful {κ : Type} : Fields α κ → Prop
  | .complete => True
  | .field _ form _ _ others => form.Faithful ∧ others.Faithful

theorem Faithful.fill? {κ : Type} {fields filled : Fields α κ} {key : String}
    (faithful : fields.Faithful) (taken : fields.fill? key json = some filled) :
    filled.Faithful := by
  induction fields with
  | complete =>
    cases taken
    trivial
  | field name form absent found others ih =>
    rw [Fields.fill?] at taken
    split at taken
    · split at taken
      · cases taken
      · split at taken <;> cases taken
        exact faithful
    · split at taken <;> cases taken
      rename_i passed
      exact ⟨faithful.1, ih faithful.2 passed⟩

/-- The value of a member fills its field, and is passed over where there is none. -/
theorem agrees_readMember {κ : Type} {fields : Fields α κ} (faithful : fields.Faithful)
    (depth : Nat) (key : String) :
    Agrees (fields.readMember depth key) (colon.andThen fun _ => document .careful depth)
      (fields.fill? key) := by
  induction fields with
  | complete =>
    intro input json rest read filled last
    obtain ⟨_, middle, between, given⟩ := reads_andThen_iff.mp read
    have skimmed : Reads (colon.andThen fun _ => skim) input () rest :=
      between.andThen (reads_skim given)
    rw [reads_readMember_complete_iff]
    constructor
    · rintro ⟨again, rfl⟩
      exact ⟨rfl, (skimmed.unique again).2⟩
    · rintro ⟨passed, rfl⟩
      cases passed
      exact ⟨skimmed, rfl⟩
  | field name form absent found others ih =>
    intro input json rest read filled last
    have agrees := agrees_behind colon (faithful.1 depth) _ _ _ read
    beta_reduce
    rw [reads_readMember_field_iff, fill?]
    by_cases same : key = name
    · cases found with
      | some value =>
        -- A second value of one name is refused either way.
        simp [same]
      | none =>
        rw [if_pos same, Option.isSome_none, if_neg Bool.false_ne_true]
        constructor
        · rintro (⟨-, -, value, given, rfl⟩ | ⟨other, -⟩)
          · obtain ⟨made, rfl⟩ := (agrees _ _).mp given
            rw [made]
            exact ⟨rfl, rfl⟩
          · exact absurd same other
        · rintro ⟨taken, rfl⟩
          split at taken
          · rename_i value made
            cases taken
            exact .inl ⟨same, rfl, value, (agrees _ _).mpr ⟨made, rfl⟩, rfl⟩
          · cases taken
    · rw [if_neg same]
      constructor
      · rintro (⟨equal, -⟩ | ⟨-, passed, given, rfl⟩)
        · exact absurd equal same
        · obtain ⟨taken, rfl⟩ := (ih faithful.2 _ _ _ read _ _).mp given
          beta_reduce at taken
          rw [taken]
          exact ⟨rfl, rfl⟩
      · rintro ⟨taken, rfl⟩
        split at taken
        · rename_i passed made
          cases taken
          exact .inr ⟨same, passed, (ih faithful.2 _ _ _ read _ _).mpr ⟨made, rfl⟩, rfl⟩
        · cases taken

theorem fillAll?_cons_eq_some_iff {κ : Type} {fields filled : Fields α κ} {key : String}
    {members : List (String × Json)} :
    fields.fillAll? ((key, json) :: members) = some filled ↔
      ∃ passed, fields.fill? key json = some passed ∧ passed.fillAll? members = some filled := by
  rw [fillAll?]
  cases fields.fill? key json <;> simp

/-- What the reader leaves is filled from these members, whatever the fields. -/
def FilledFrom (α : Type) (members : List (String × Json))
    (reader : (κ : Type) → Fields α κ → Reading (Fields α κ)) (input rest : List Char) : Prop :=
  ∀ (κ : Type) (fields : Fields α κ), fields.Faithful →
    ∀ (filled : Fields α κ) (last : List Char),
      Reads (reader κ fields) input filled last ↔
        fields.fillAll? members = some filled ∧ last = rest

end Fields

/-- The document has been read off some text. -/
def IsRead (depth : Nat) (json : Json) : Prop :=
  ∃ input rest, Reads (document .careful depth) input json rest

def FillsMember (α : Type) (depth : Nat) (name : String) (json : Json) (input after : List Char) :
    Prop :=
  ∀ (κ : Type) (fields : Fields α κ), fields.Faithful →
    ∀ (passed : Fields α κ) (last : List Char),
      Reads ((nextName .careful).andThen fun key => fields.readMember depth key) input passed last ↔
        fields.fill? name json = some passed ∧ last = after

theorem exists_member {before reached : List (String × Json)} {after : List Char}
    (read : Reads ((nextName .careful).andThen (documentMember .careful depth before)) input
      reached after) :
    ∃ name json, reached = (name, json) :: before ∧ IsRead depth json ∧
      FillsMember α depth name json input after := by
  obtain ⟨name, middle, named, read⟩ := reads_andThen_iff.mp read
  obtain ⟨json, given, rfl⟩ := reads_andThen_map_iff.mp read
  obtain ⟨_, start, -, inside⟩ := reads_andThen_iff.mp given
  refine ⟨name, json, rfl, ⟨start, after, inside⟩, fun κ fields faithful passed last => ?_⟩
  have agrees := Fields.agrees_readMember faithful depth name _ _ _ given passed last
  refine Iff.trans ?_ agrees
  rw [reads_andThen_iff]
  constructor
  · rintro ⟨_, _, again, taken⟩
    obtain ⟨rfl, rfl⟩ := named.unique again
    exact taken
  · exact fun taken => ⟨name, middle, named, taken⟩

theorem FillsMember.cons_iff {name : String} {further : List (String × Json)} {after : List Char}
    (fills : FillsMember α depth name json input after)
    (fillsMore : Fields.FilledFrom α further
      (fun _ => moreMembers .careful fun fields key => fields.readMember depth key) after rest)
    {κ : Type} {fields filled : Fields α κ} (faithful : fields.Faithful) :
    (∃ passed middle,
      Reads ((nextName .careful).andThen fun key => fields.readMember depth key) input passed
        middle ∧
      Reads (moreMembers .careful (fun fields key => fields.readMember depth key) passed) middle
        filled last) ↔
      fields.fillAll? ((name, json) :: further) = some filled ∧ last = rest := by
  rw [Fields.fillAll?_cons_eq_some_iff]
  constructor
  · rintro ⟨passed, _, start, more⟩
    obtain ⟨taken, rfl⟩ := (fills κ fields faithful _ _).mp start
    obtain ⟨filling, rfl⟩ := (fillsMore κ passed (faithful.fill? taken) _ _).mp more
    exact ⟨⟨passed, taken, filling⟩, rfl⟩
  · rintro ⟨⟨passed, taken, filling⟩, rfl⟩
    exact ⟨passed, after, (fills κ fields faithful _ _).mpr ⟨taken, rfl⟩,
      (fillsMore κ passed (faithful.fill? taken) _ _).mpr ⟨filling, rfl⟩⟩

theorem exists_moreMembers {before found : List (String × Json)}
    (read : Reads (moreMembers .careful (documentMember .careful depth) before) input found rest) :
    ∃ further : List (String × Json), found = further.reverse ++ before ∧
      (∀ member ∈ further, IsRead depth member.2) ∧
      Fields.FilledFrom α further
        (fun _ => moreMembers .careful fun fields key => fields.readMember depth key)
        input rest := by
  -- What a member leaves is shorter than what it is given.
  induction bound : input.length using Nat.strongRecOn generalizing input before with
  | ind length ih =>
    rcases reads_moreMembers_cases.mp read with
      ⟨closed, rfl⟩ | ⟨inner, reached, after, comma, first, others⟩
    · refine ⟨[], rfl, by simp, fun κ fields _ filled last => ?_⟩
      rw [reads_moreMembers_cases]
      simp [closed, Fields.fillAll?, eq_comm, and_comm]
    · obtain ⟨name, json, rfl, isRead, fills⟩ := exists_member (α := α) first
      have behind := length_lt_of_gap comma
      have within := first.1
      obtain ⟨further, rfl, areRead, fillsMore⟩ := ih after.length (by omega) others rfl
      refine ⟨(name, json) :: further, by simp, List.forall_mem_cons.mpr ⟨isRead, areRead⟩,
        fun κ fields faithful filled last => ?_⟩
      rw [reads_moreMembers_cases, ← fills.cons_iff fillsMore faithful]
      constructor
      · rintro (⟨closed, -⟩ | ⟨_, passed, middle, again, start, more⟩)
        · cases comma.symm.trans closed
        · cases comma.symm.trans again
          exact ⟨passed, middle, start, more⟩
      · rintro ⟨passed, middle, start, more⟩
        exact .inr ⟨inner, passed, middle, comma, start, more⟩

theorem ne_brace_of_reads_nextName {σ : Type u} {next : String → Reading σ} {reached : σ}
    {after : List Char} (read : Reads ((nextName .careful).andThen next) input reached after)
    (rest : List Char) : input.dropWhile isGap ≠ '\x7d' :: rest := by
  obtain ⟨_, _, named, -⟩ := reads_andThen_iff.mp read
  obtain ⟨_, quote, -⟩ := reads_nextName_iff.mp named
  rw [quote]
  simp

theorem filledFrom_members {found : List (String × Json)}
    (read : Reads (members .careful (documentMember .careful depth) []) input found.reverse rest) :
    (∀ member ∈ found, IsRead depth member.2) ∧
      Fields.FilledFrom α found
        (fun _ => members .careful fun fields key => fields.readMember depth key) input rest := by
  rcases reads_members_cases.mp read with ⟨closed, same⟩ | ⟨reached, after, first, others⟩
  · obtain rfl := List.reverse_eq_nil_iff.mp same
    refine ⟨by simp, fun κ fields _ filled last => ?_⟩
    rw [reads_members_cases]
    constructor
    · rintro (⟨again, rfl⟩ | ⟨_, _, start, -⟩)
      · cases closed.symm.trans again
        exact ⟨rfl, rfl⟩
      · exact absurd closed (ne_brace_of_reads_nextName start rest)
    · rintro ⟨made, rfl⟩
      cases made
      exact .inl ⟨closed, rfl⟩
  · obtain ⟨name, json, rfl, isRead, fills⟩ := exists_member (α := α) first
    obtain ⟨further, same, areRead, fillsMore⟩ := exists_moreMembers (α := α) others
    obtain rfl : found = (name, json) :: further := by
      rw [← List.reverse_inj, same, List.reverse_cons]
    refine ⟨List.forall_mem_cons.mpr ⟨isRead, areRead⟩, fun κ fields faithful filled last => ?_⟩
    rw [reads_members_cases, ← fills.cons_iff fillsMore faithful]
    constructor
    · rintro (⟨closed, -⟩ | more)
      · exact absurd closed (ne_brace_of_reads_nextName first last)
      · exact more
    · exact .inr

/-! ### Lists of the fields -/

namespace Fields

def ItemsFrom (first : Bool) (depth : Nat) (input : List Char) (jsons : List Json)
    (rest : List Char) : Prop :=
  input.dropWhile isGap = ']' :: rest ∧ jsons = [] ∨
    ∃ inner json after others, OpensItem first input inner ∧
      Reads (document .careful depth) inner json after ∧
      Reads (moreItems .careful (document .careful depth)) after others rest ∧
      jsons = json :: others

theorem itemsFrom_moreItems {jsons : List Json}
    (read : Reads (moreItems .careful (document .careful depth)) input jsons rest) :
    ItemsFrom false depth input jsons rest := by
  rcases reads_moreItems_cases.mp read with
    closed | ⟨inner, json, after, others, comma, goes, first, more, same⟩
  · exact .inl closed
  · exact .inr ⟨inner, json, after, others, ⟨comma, fun ends => goes ⟨rfl, ends⟩⟩, first, more,
      same⟩

theorem itemsFrom_items {jsons : List Json}
    (read : Reads (items .careful (document .careful depth)) input jsons rest) :
    ItemsFrom true depth input jsons rest := by
  rcases reads_items_cases.mp read with
    closed | ⟨⟨c, front, other⟩, json, after, others, first, more, same⟩
  · exact .inl closed
  · obtain ⟨behind, tail⟩ := List.head?_eq_some_iff.mp front
    exact .inr ⟨c :: behind, json, after, others, ⟨c, behind, tail, other, rfl⟩,
      tail ▸ reads_document_dropWhile.mpr first, more, same⟩

theorem reads_readItems_iff {κ : Type} {fields : Fields α κ} (faithful : fields.Faithful)
    {expected : String} {index : Nat} {make : κ} {jsons : List Json} {value : α}
    (found : ItemsFrom (index == 0) depth input jsons rest) :
    Reads (fields.readItems depth expected index make) input value last ↔
      fields.ofItems? make jsons = some value ∧ last = rest := by
  induction fields generalizing index input jsons with
  | complete =>
    rw [readItems]
    refine reads_map_iff.trans ?_
    simp only [reads_listEnd_iff]
    rcases found with ⟨closed, rfl⟩ | ⟨_, _, _, _, opens, -, -, rfl⟩
    · simp [closed, ofItems?, eq_comm, and_comm]
    · simp [opens.ne_end, ofItems?]
  | field name form absent given others ih =>
    rw [readItems, reads_andThen_iff]
    rcases found with ⟨closed, rfl⟩ | ⟨inner, json, after, jsons, opens, first, more, rfl⟩
    · -- The bracket is left in place, so all further fields meet it as well.
      have left : ItemsFrom (index + 1 == 0) depth (']' :: rest) [] rest := .inl ⟨rfl, rfl⟩
      rw [ofItems?]
      constructor
      · rintro ⟨item, middle, next, read⟩
        cases item with
        | some value =>
          obtain ⟨_, opens, -⟩ := reads_nextItem_iff.mp next
          exact absurd closed (opens.ne_end rest)
        | none =>
          obtain ⟨_, again, rfl⟩ := reads_nextItem_none_iff.mp next
          cases closed.symm.trans again
          cases absent with
          | none => exact absurd read not_reads_fail
          | some value => exact (ih faithful.2 left).mp read
      · intro made
        refine ⟨none, ']' :: rest, reads_nextItem_none_iff.mpr ⟨rest, closed, rfl⟩, ?_⟩
        cases absent with
        | none => cases made.1
        | some value => exact (ih faithful.2 left).mpr made
    · have left : ItemsFrom (index + 1 == 0) depth after jsons rest := itemsFrom_moreItems more
      rw [ofItems?, Option.bind_eq_some_iff]
      constructor
      · rintro ⟨item, middle, next, read⟩
        cases item with
        | none =>
          obtain ⟨_, closed, -⟩ := reads_nextItem_none_iff.mp next
          exact absurd closed (opens.ne_end _)
        | some value =>
          obtain ⟨_, again, taken⟩ := reads_nextItem_iff.mp next
          obtain rfl := opens.unique again
          obtain ⟨made, rfl⟩ := (faithful.1 _ _ _ _ first _ _).mp taken
          obtain ⟨makes, rfl⟩ := (ih faithful.2 left).mp read
          exact ⟨⟨value, made, makes⟩, rfl⟩
      · rintro ⟨⟨value, made, makes⟩, rfl⟩
        have taken := (faithful.1 _ _ _ _ first _ _).mpr ⟨made, rfl⟩
        exact ⟨some value, after, reads_nextItem_iff.mpr ⟨inner, opens, taken⟩,
          (ih faithful.2 left).mpr ⟨makes, rfl⟩⟩

end Fields

theorem Form.faithful_record {κ : Type} {fields : Fields α κ} (faithful : fields.Faithful)
    (name : String) (make : κ) : (Form.record name make fields).Faithful := by
  intro depth input json rest whole value last
  rw [reads_record_iff]
  constructor
  · rintro ⟨left, inner, rfl, ⟨brace, filled, read, made⟩ | ⟨bracket, read⟩⟩
    · obtain ⟨_, found, same, rfl, given⟩ := exists_members_of_brace brace whole
      cases same
      obtain ⟨filling, rfl⟩ := ((filledFrom_members given).2 κ fields faithful _ _).mp read
      refine ⟨?_, rfl⟩
      simp only [Form.record, Fields.ofMembers?, filling, Option.bind_some, made]
      rfl
    · obtain ⟨_, found, same, rfl, given⟩ := exists_items_of_bracket bracket whole
      cases same
      have all : Fields.ItemsFrom ((0 : Nat) == 0) left inner found rest :=
        Fields.itemsFrom_items given
      exact (Fields.reads_readItems_iff faithful all).mp read
  · rintro ⟨made, rfl⟩
    cases json with
    | object found =>
      obtain ⟨left, inner, rfl, brace, given⟩ := exists_brace_of_object whole
      obtain ⟨filled, filling, made⟩ := Option.bind_eq_some_iff.mp made
      refine ⟨left, inner, rfl, .inl ⟨brace, filled, ?_, ?_⟩⟩
      · exact ((filledFrom_members given).2 κ fields faithful _ _).mpr ⟨filling, rfl⟩
      · cases finished : filled.finish make with
        | ok result =>
          rw [finished] at made
          cases made
          rfl
        | error fault =>
          rw [finished] at made
          cases made
    | list found =>
      obtain ⟨left, inner, rfl, bracket, given⟩ := exists_bracket_of_list whole
      have all : Fields.ItemsFrom ((0 : Nat) == 0) left inner found last :=
        Fields.itemsFrom_items given
      exact ⟨left, inner, rfl, .inr ⟨bracket,
        (Fields.reads_readItems_iff faithful all).mpr ⟨made, rfl⟩⟩⟩
    | _ => cases made

end Records

/-! ## Texts -/

namespace Form

variable {α : Type} {form : Form α} {text : String}

theorem exists_reads_of_decode (said : (ofDocument id).decode text = .ok json) :
    ∃ rest, Reads (document .careful maxDepth) text.toList json rest ∧ rest.all isGap = true := by
  obtain ⟨rest, read, gap⟩ := decode_eq_ok_iff.mp said
  obtain ⟨_, read, rfl⟩ := reads_map_iff.mp read
  exact ⟨rest, read, gap⟩

/-- A text is decoded from the document that it says. -/
theorem Faithful.decode_iff (faithful : form.Faithful)
    (said : (ofDocument id).decode text = .ok json) {value : α} :
    form.decode text = .ok value ↔ form.ofJson? json = some value := by
  obtain ⟨rest, whole, gap⟩ := exists_reads_of_decode said
  rw [decode_eq_ok_iff]
  constructor
  · rintro ⟨last, read, -⟩
    exact ((faithful _ _ _ _ whole _ _).mp read).1
  · intro made
    exact ⟨rest, (faithful _ _ _ _ whole _ _).mpr ⟨made, rfl⟩, gap⟩

end Form

theorem IsRead.member {found : List (String × Json)} (isRead : IsRead depth (.object found))
    {member : String × Json} (there : member ∈ found) : ∃ left, IsRead left member.2 := by
  obtain ⟨input, rest, read⟩ := isRead
  obtain ⟨left, _, -, -, given⟩ := exists_brace_of_object read
  exact ⟨left, (filledFrom_members (α := Unit) given).1 member there⟩

theorem IsRead.isFinite (isRead : IsRead depth json) {x : Float} (number : json.asNumber = some x) :
    Number.IsFinite x := by
  obtain ⟨input, rest, read⟩ := isRead
  cases reads_document_iff.mp read with
  | list => cases number
  | object => cases number
  | scalar _ read =>
    have legible := read.legible
    cases json with
    | integer n =>
      cases number
      exact Number.isFinite_ofInt legible.1 legible.2
    | real y =>
      cases number
      exact legible
    | _ => cases number

end Tabular.Json
