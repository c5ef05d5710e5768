import Tabular.Json.Record
import Tabular.Proofs.Text.Reader

/-! How objects and lists of fields are read.

An object is read member by member, and each member leads from one state to the next. Two readers
whose states correspond before and after every member read the same objects, and end in states
that correspond.
-/

set_option autoImplicit false

namespace Tabular.Json

open Text

universe u v w

theorem reads_afterGap_iff {α : Type u} {reader : Reading α} {input rest : List Char} {value : α} :
    Reads (afterGap reader) input value rest ↔ Reads reader (input.dropWhile isGap) value rest :=
  reads_behind_iff

theorem not_reads_mismatch {α : Type u} {expected : String} {input rest : List Char} {value : α} :
    ¬Reads (mismatch expected) input value rest := by
  rintro ⟨_, failed⟩
  unfold mismatch at failed
  split at failed
  · cases failed
  · split at failed
    · cases failed
    · split at failed
      · cases failed
      · split at failed <;> cases failed

/-! ## Members -/

section Members

variable {δ : Type u} {τ : Type v} {σ : Type w}

/-- How a member of a name leads from a state and the text after the name to the next. -/
abbrev MemberStep (δ : Type u) : Type u := δ → String → List Char → δ → List Char → Prop

inductive ReadsMore (step : MemberStep δ) : δ → List Char → δ → List Char → Prop where
  | done {state : δ} {input rest : List Char} : input.dropWhile isGap = '\x7d' :: rest →
      ReadsMore step state input state rest
  | next {state reached last : δ} {name : String} {input inner middle after rest : List Char} :
      input.dropWhile isGap = ',' :: inner → Reads (nextName .careful) inner name middle →
      step state name middle reached after → ReadsMore step reached after last rest →
      ReadsMore step state input last rest

inductive ReadsMembers (step : MemberStep δ) : δ → List Char → δ → List Char → Prop where
  | none {state : δ} {input rest : List Char} : input.dropWhile isGap = '\x7d' :: rest →
      ReadsMembers step state input state rest
  | first {state reached last : δ} {name : String} {input inner middle after rest : List Char} :
      input.dropWhile isGap = '"' :: inner → Reads (textAfterQuote .careful) inner name middle →
      step state name middle reached after → ReadsMore step reached after last rest →
      ReadsMembers step state input last rest

/-- A reader of members does what the steps say, in its own view of the states. -/
def Steps (member : σ → String → Reading σ) (view : δ → σ) (step : MemberStep δ) : Prop :=
  ∀ (state : δ) (name : String) (input : List Char) (reached : σ) (rest : List Char),
    Reads (member (view state) name) input reached rest ↔
      ∃ next, step state name input next rest ∧ reached = view next

variable {member : σ → String → Reading σ} {view : δ → σ} {step : MemberStep δ}

theorem reads_nextName_iff {care : Care} {name : String} {input rest : List Char} :
    Reads (nextName care) input name rest ↔
      ∃ inner, input.dropWhile isGap = '"' :: inner ∧
        Reads (textAfterQuote care) inner name rest := by
  unfold nextName
  refine Iff.trans reads_afterGap_iff ?_
  generalize input.dropWhile isGap = tail
  cases tail with
  | nil => simp [Reads]
  | cons c inner =>
    constructor
    · rintro ⟨within, found⟩
      dsimp only at found
      split at found
      · rename_i quote
        exact ⟨inner, quote ▸ rfl, reads_behind_iff.mp ⟨within, found⟩⟩
      · split at found <;> cases found
    · rintro ⟨_, same, read⟩
      cases same
      exact .afterOne rfl read

theorem reads_moreMembers_cases {care : Care} {state last : σ} {input rest : List Char} :
    Reads (moreMembers care member state) input last rest ↔
      input.dropWhile isGap = '\x7d' :: rest ∧ last = state ∨
      ∃ inner reached after, input.dropWhile isGap = ',' :: inner ∧
        Reads ((nextName care).andThen (member state)) inner reached after ∧
        Reads (moreMembers care member reached) after last rest := by
  rw [Reads, moreMembers, reads_behind_iff]
  dsimp only
  -- The bounds in the reader speak of this tail as well.
  generalize input.dropWhile isGap = tail
  cases tail with
  | nil => simp
  | cons c inner =>
    simp only [List.cons.injEq]
    by_cases closing : c = '\x7d'
    · subst closing
      simp only [if_true]
      constructor
      · rintro ⟨_, closed⟩
        cases closed
        exact .inl ⟨⟨trivial, rfl⟩, rfl⟩
      · rintro (⟨⟨-, rfl⟩, rfl⟩ | ⟨_, _, _, ⟨different, -⟩, -⟩)
        · exact ⟨Nat.le_succ _, rfl⟩
        · exact absurd different (by decide)
    · by_cases comma : c = ','
      · subst comma
        simp only [closing, if_false, ne_eq, not_true_eq_false, false_and, false_or]
        constructor
        · rintro ⟨bound, read⟩
          split at read
          · cases read
          · rename_i next first
            exact ⟨inner, next.value, next.rest, ⟨trivial, rfl⟩, ⟨next.within, first⟩,
              reads_behind_iff.mp ⟨bound, read⟩⟩
        · rintro ⟨_, reached, after, ⟨-, rfl⟩, ⟨bound, first⟩, others⟩
          rw [first]
          exact reads_behind_iff.mpr others
      · simp [closing, comma]

theorem reads_members_cases {care : Care} {state last : σ} {input rest : List Char} :
    Reads (members care member state) input last rest ↔
      input.dropWhile isGap = '\x7d' :: rest ∧ last = state ∨
      ∃ reached after, Reads ((nextName care).andThen (member state)) input reached after ∧
        Reads (moreMembers care member reached) after last rest := by
  simp only [reads_andThen_iff, reads_nextName_iff]
  unfold members
  refine Iff.trans reads_afterGap_iff ?_
  generalize input.dropWhile isGap = tail
  cases tail with
  | nil => simp [Reads]
  | cons c inner =>
    by_cases closing : c = '\x7d'
    · subst closing
      simp only [Reads, if_true]
      constructor
      · rintro ⟨_, closed⟩
        cases closed
        exact .inl ⟨rfl, rfl⟩
      · rintro (⟨same, rfl⟩ | ⟨_, _, ⟨_, _, ⟨_, different, -⟩, -⟩, -⟩)
        · cases same
          exact ⟨Nat.le_succ _, rfl⟩
        · cases different
    · by_cases quote : c = '"'
      · subst quote
        constructor
        · rintro ⟨within, found⟩
          simp only [closing, if_false, if_true] at found
          obtain ⟨name, middle, named, read⟩ :=
            reads_andThen_iff.mp (reads_behind_iff.mp ⟨within, found⟩)
          obtain ⟨reached, after, first, others⟩ := reads_andThen_iff.mp read
          exact .inr ⟨reached, after, ⟨name, middle, ⟨inner, rfl, named⟩, first⟩, others⟩
        · rintro (⟨same, -⟩ | ⟨reached, after, ⟨name, middle, ⟨_, same, named⟩, first⟩, others⟩)
          · cases same
          · cases same
            exact .afterOne rfl (named.andThen (first.andThen others))
      · simp [Reads, closing, quote]

/-- Where each member leads from state to state as the steps say, so do all of them. -/
theorem reads_moreMembers_iff (stepped : Steps member view step) {state : δ} {last : σ}
    {input rest : List Char} :
    Reads (moreMembers .careful member (view state)) input last rest ↔
      ∃ reached, ReadsMore step state input reached rest ∧ last = view reached := by
  constructor
  · -- What a member leaves is shorter than what it is given.
    induction bound : input.length using Nat.strongRecOn generalizing state input with
    | ind length ih =>
      intro read
      rcases reads_moreMembers_cases.mp read with
        ⟨closed, rfl⟩ | ⟨inner, _, after, comma, first, others⟩
      · exact ⟨state, .done closed, rfl⟩
      · obtain ⟨name, middle, named, read⟩ := reads_andThen_iff.mp first
        obtain ⟨next, led, rfl⟩ := (stepped _ _ _ _ _).mp read
        have shorter : after.length < length := by
          have gap := length_dropWhile_le isGap input
          have within := first.1
          rw [comma, List.length_cons] at gap
          omega
        obtain ⟨reached, run, ends⟩ := ih after.length shorter rfl others
        exact ⟨reached, .next comma named led run, ends⟩
  · rintro ⟨reached, run, rfl⟩
    induction run with
    | done closed => exact reads_moreMembers_cases.mpr (.inl ⟨closed, rfl⟩)
    | next comma named led _ ih =>
      have read := (stepped _ _ _ _ _).mpr ⟨_, led, rfl⟩
      exact reads_moreMembers_cases.mpr (.inr ⟨_, _, _, comma, named.andThen read, ih⟩)

theorem reads_members_iff (stepped : Steps member view step) {state : δ} {last : σ}
    {input rest : List Char} :
    Reads (members .careful member (view state)) input last rest ↔
      ∃ reached, ReadsMembers step state input reached rest ∧ last = view reached := by
  rw [reads_members_cases]
  constructor
  · rintro (⟨closed, rfl⟩ | ⟨_, after, first, others⟩)
    · exact ⟨state, .none closed, rfl⟩
    · obtain ⟨name, middle, named, read⟩ := reads_andThen_iff.mp first
      obtain ⟨inner, quoted, named⟩ := reads_nextName_iff.mp named
      obtain ⟨next, led, rfl⟩ := (stepped _ _ _ _ _).mp read
      obtain ⟨reached, run, ends⟩ := (reads_moreMembers_iff stepped).mp others
      exact ⟨reached, .first quoted named led run, ends⟩
  · rintro ⟨reached, run, rfl⟩
    cases run with
    | none closed => exact .inl ⟨closed, rfl⟩
    | first quoted named led others =>
      have named := reads_nextName_iff.mpr ⟨_, quoted, named⟩
      have read := (stepped _ _ _ _ _).mpr ⟨_, led, rfl⟩
      exact .inr ⟨_, _, named.andThen read, (reads_moreMembers_iff stepped).mpr ⟨_, others, rfl⟩⟩

theorem ReadsMore.preserves {kept : δ → Prop}
    (keeps : ∀ state name input next rest, step state name input next rest → kept state → kept next)
    {state last : δ} {input rest : List Char} (run : ReadsMore step state input last rest)
    (start : kept state) : kept last := by
  induction run with
  | done => exact start
  | next _ _ led _ ih => exact ih (keeps _ _ _ _ _ led start)

theorem ReadsMembers.preserves {kept : δ → Prop}
    (keeps : ∀ state name input next rest, step state name input next rest → kept state → kept next)
    {state last : δ} {input rest : List Char} (run : ReadsMembers step state input last rest)
    (start : kept state) : kept last := by
  cases run with
  | none => exact start
  | first _ _ led others => exact others.preserves keeps (keeps _ _ _ _ _ led start)

/-! ## Readers in step -/

section InStep

variable {next : MemberStep τ} {rel : δ → τ → Prop}

/-- From states that correspond each member leads to states that correspond, and where one reader
takes a member the other does. -/
def InStep (rel : δ → τ → Prop) (step : MemberStep δ) (next : MemberStep τ) : Prop :=
  ∀ (state : δ) (name : String) (input rest : List Char) (reached : τ),
    (∃ other, rel state other ∧ next other name input reached rest) ↔
      ∃ last, step state name input last rest ∧ rel last reached

theorem readsMore_inStep (inStep : InStep rel step next) {state : δ} {reached : τ}
    {input rest : List Char} :
    (∃ other, rel state other ∧ ReadsMore next other input reached rest) ↔
      ∃ last, ReadsMore step state input last rest ∧ rel last reached := by
  constructor
  · rintro ⟨other, related, run⟩
    -- The states in step with those of the run change along it.
    induction run generalizing state with
    | done closed => exact ⟨state, .done closed, related⟩
    | next comma named led _ ih =>
      obtain ⟨middle, led, related⟩ := (inStep _ _ _ _ _).mp ⟨_, related, led⟩
      obtain ⟨last, run, related⟩ := ih related
      exact ⟨last, .next comma named led run, related⟩
  · rintro ⟨last, run, related⟩
    -- Only the last state is known to correspond, so the run is followed from its end.
    induction run with
    | done closed => exact ⟨reached, related, .done closed⟩
    | next comma named led _ ih =>
      obtain ⟨middle, between, run⟩ := ih related
      obtain ⟨other, related, led⟩ := (inStep _ _ _ _ _).mpr ⟨_, led, between⟩
      exact ⟨other, related, .next comma named led run⟩

theorem readsMembers_inStep (inStep : InStep rel step next) {state : δ} {reached : τ}
    {input rest : List Char} :
    (∃ other, rel state other ∧ ReadsMembers next other input reached rest) ↔
      ∃ last, ReadsMembers step state input last rest ∧ rel last reached := by
  constructor
  · rintro ⟨other, related, run⟩
    cases run with
    | none closed => exact ⟨state, .none closed, related⟩
    | first quoted named led others =>
      obtain ⟨middle, led, related⟩ := (inStep _ _ _ _ _).mp ⟨_, related, led⟩
      obtain ⟨last, run, related⟩ := (readsMore_inStep inStep).mp ⟨_, related, others⟩
      exact ⟨last, .first quoted named led run, related⟩
  · rintro ⟨last, run, related⟩
    cases run with
    | none closed => exact ⟨reached, related, .none closed⟩
    | first quoted named led others =>
      obtain ⟨middle, between, run⟩ := (readsMore_inStep inStep).mpr ⟨_, others, related⟩
      obtain ⟨other, related, led⟩ := (inStep _ _ _ _ _).mpr ⟨_, led, between⟩
      exact ⟨other, related, .first quoted named led run⟩

end InStep

end Members

/-! ## Items of a list that may end -/

section Items

variable {β : Type}

def OpensItem (first : Bool) (input inner : List Char) : Prop :=
  if first then ∃ c behind, input.dropWhile isGap = c :: behind ∧ c ≠ ']' ∧ inner = c :: behind
  else input.dropWhile isGap = ',' :: inner ∧ ahead inner ≠ some ']'

theorem reads_nextItem_iff {first : Bool} {item : Reading β} {input rest : List Char} {value : β} :
    Reads (Fields.nextItem first item) input (some value) rest ↔
      ∃ inner, OpensItem first input inner ∧ Reads item inner value rest := by
  unfold Fields.nextItem
  refine Iff.trans reads_afterGap_iff ?_
  unfold OpensItem
  generalize input.dropWhile isGap = tail
  cases tail with
  | nil => cases first <;> simp [Reads]
  | cons c inner =>
    by_cases closing : c = ']'
    · subst closing
      cases first <;> simp [Reads, Reader.done]
    · cases first with
      | true =>
        simp only [Reads, closing, if_false, if_true]
        refine Iff.trans reads_map_iff ?_
        constructor
        · rintro ⟨_, read, same⟩
          cases same
          exact ⟨_, ⟨c, inner, rfl, closing, rfl⟩, read⟩
        · rintro ⟨_, ⟨_, _, same, -, rfl⟩, read⟩
          cases same
          exact ⟨value, read, rfl⟩
      | false =>
        -- The item starts behind the comma, and a bracket there is a fault of its own.
        by_cases comma : c = ','
        · subst comma
          by_cases trailing : ahead inner = some ']'
          · simp [Reads, trailing]
          · simp only [Reads, closing, trailing, if_false, ne_eq, not_true_eq_false]
            refine Iff.trans (@reads_behind_iff _ _ _ _ _ (Nat.le_succ _) _ _) ?_
            refine Iff.trans reads_map_iff ?_
            constructor
            · rintro ⟨_, read, same⟩
              cases same
              exact ⟨inner, ⟨rfl, trailing⟩, read⟩
            · rintro ⟨_, ⟨same, -⟩, read⟩
              cases same
              exact ⟨value, read, rfl⟩
        · simp [Reads, closing, comma]

theorem reads_nextItem_none_iff {first : Bool} {item : Reading β} {input last : List Char} :
    Reads (Fields.nextItem first item) input none last ↔
      ∃ rest, input.dropWhile isGap = ']' :: rest ∧ last = ']' :: rest := by
  unfold Fields.nextItem
  refine Iff.trans reads_afterGap_iff ?_
  generalize input.dropWhile isGap = tail
  cases tail with
  | nil => simp [Reads]
  | cons c inner =>
    by_cases closing : c = ']'
    · subst closing
      constructor
      · rintro ⟨_, found⟩
        cases found
        exact ⟨inner, rfl, rfl⟩
      · rintro ⟨_, same, rfl⟩
        cases same
        exact .done none _
    · constructor
      · rintro ⟨within, found⟩
        simp only [closing, if_false] at found
        split at found
        · obtain ⟨_, -, same⟩ := reads_map_iff.mp ⟨within, found⟩
          cases same
        · split at found
          · cases found
          · split at found
            · cases found
            · obtain ⟨_, -, same⟩ := reads_map_iff.mp (reads_behind_iff.mp ⟨within, found⟩)
              cases same
      · rintro ⟨_, same, -⟩
        cases same
        exact absurd rfl closing

theorem reads_listEnd_iff {input rest : List Char} {mark : Unit} :
    Reads Fields.listEnd input mark rest ↔ input.dropWhile isGap = ']' :: rest := by
  unfold Fields.listEnd
  refine Iff.trans reads_afterGap_iff ?_
  generalize input.dropWhile isGap = tail
  cases tail with
  | nil => simp [Reads]
  | cons c inner =>
    by_cases closing : c = ']'
    · subst closing
      refine Iff.trans (reads_afterOne_iff rfl) (reads_done_iff.trans ?_)
      simp [eq_comm]
    · constructor
      · rintro ⟨_, found⟩
        simp only [closing, if_false] at found
        split at found <;> cases found
      · intro same
        cases same
        exact absurd rfl closing

theorem OpensItem.ne_end {first : Bool} {input inner : List Char}
    (opens : OpensItem first input inner) (rest : List Char) :
    input.dropWhile isGap ≠ ']' :: rest := by
  intro closed
  cases first with
  | true =>
    obtain ⟨c, behind, tail, other, -⟩ := opens
    cases tail.symm.trans closed
    exact other rfl
  | false => cases opens.1.symm.trans closed

theorem OpensItem.unique {first : Bool} {input inner other : List Char}
    (opens : OpensItem first input inner) (again : OpensItem first input other) :
    other = inner := by
  cases first with
  | true =>
    obtain ⟨_, _, tail, -, rfl⟩ := opens
    obtain ⟨_, _, same, -, rfl⟩ := again
    exact same.symm.trans tail
  | false => exact (List.cons.inj (again.1.symm.trans opens.1)).2

end Items

/-! ## Records -/

section Records

variable {α κ : Type} {depth : Nat} {input rest : List Char} {value : α}

namespace Fields

variable {β : Type} {name key : String} {form : Form β} {absent found : Option β}
  {others : Fields α κ}

theorem reads_readMember_complete_iff {filled : Fields α α} :
    Reads (Fields.complete.readMember depth key) input filled rest ↔
      Reads (colon.andThen fun _ => skim) input () rest ∧ filled = .complete := by
  rw [readMember]
  refine Iff.trans reads_andThen_map_iff ⟨?_, fun ⟨read, same⟩ => ⟨(), read, same⟩⟩
  rintro ⟨_, read, same⟩
  exact ⟨read, same⟩

theorem reads_readMember_field_iff {filled : Fields α (β → κ)} :
    Reads ((Fields.field name form absent found others).readMember depth key) input filled rest ↔
      key = name ∧ found = none ∧
          (∃ value, Reads (colon.andThen fun _ => form.read depth) input value rest ∧
            filled = .field name form absent (some value) others) ∨
        key ≠ name ∧
          ∃ passed, Reads (others.readMember depth key) input passed rest ∧
            filled = .field name form absent found passed := by
  rw [readMember]
  by_cases same : key = name
  · simp only [same, if_true, true_and, ne_eq, not_true_eq_false, false_and, or_false]
    cases found with
    | some value => simpa using not_reads_fail
    | none =>
      simp only [Option.isSome_none, Bool.false_eq_true, if_false, true_and]
      exact reads_andThen_map_iff
  · simp only [same, if_false, false_and, false_or, ne_eq, not_false_eq_true, true_and]
    exact reads_map_iff

end Fields

theorem reads_enter_iff {inside : (depth : Nat) → Reading α} :
    Reads (enter inside depth) input value rest ↔
      ∃ left, depth = left + 1 ∧ Reads (inside left) input value rest := by
  cases depth with
  | zero => exact ⟨fun read => absurd read not_reads_fail, fun ⟨_, below, _⟩ => nomatch below⟩
  | succ left =>
    constructor
    · exact fun read => ⟨left, rfl, read⟩
    · rintro ⟨_, same, read⟩
      cases same
      exact read

/-- A record is read from an object of its fields or from the list of them. -/
theorem reads_record_iff {name : String} {make : κ} {fields : Fields α κ} :
    Reads ((Form.record name make fields).read depth) input value rest ↔
      ∃ left inner, depth = left + 1 ∧
        (input.dropWhile isGap = '\x7b' :: inner ∧
          (∃ filled, Reads
            (members .careful (fun fields key => fields.readMember left key) fields)
            inner filled rest ∧ filled.finish make = .ok value) ∨
        input.dropWhile isGap = '[' :: inner ∧
          Reads (fields.readItems left
            ("struct " ++ name ++ " with " ++ toString fields.size ++ " elements") 0 make)
            inner value rest) := by
  simp only [Form.record]
  refine Iff.trans reads_afterGap_iff ?_
  constructor
  · intro read
    cases tail : input.dropWhile isGap with
    | nil =>
      rw [tail] at read
      cases read.2
    | cons c inner =>
      rw [tail] at read
      obtain ⟨bound, read⟩ := read
      dsimp only at read
      split at read
      · rename_i opened
        obtain ⟨left, rfl, entered⟩ := reads_enter_iff.mp (reads_behind_iff.mp ⟨bound, read⟩)
        obtain ⟨filled, middle, found, finished⟩ := reads_andThen_iff.mp entered
        refine ⟨left, inner, rfl, .inl ⟨opened ▸ rfl, filled, ?_⟩⟩
        split at finished
        · rename_i made
          obtain ⟨rfl, rfl⟩ := reads_done_iff.mp finished
          exact ⟨found, made⟩
        · exact absurd finished not_reads_fail
      · split at read
        · rename_i opened
          obtain ⟨left, rfl, entered⟩ := reads_enter_iff.mp (reads_behind_iff.mp ⟨bound, read⟩)
          exact ⟨left, inner, rfl, .inr ⟨opened ▸ rfl, entered⟩⟩
        · exact absurd ⟨bound, read⟩ not_reads_mismatch
  · rintro ⟨left, inner, rfl, ⟨opened, filled, read, made⟩ | ⟨opened, read⟩⟩
    · rw [opened]
      refine .afterOne rfl (reads_enter_iff.mpr ⟨left, rfl, read.andThen ?_⟩)
      rw [made]
      exact .done _ _
    · rw [opened]
      exact .afterOne rfl (reads_enter_iff.mpr ⟨left, rfl, read⟩)

end Records

end Tabular.Json
