import Tabular.Interchange.Request
import Tabular.Proofs.Json.Form
import Tabular.Proofs.Json.Members

/-! Requests as they come in: the name of a dataset beside a query that is still a document.

A form that decides on the whole document sees nothing else of the text. So the reader of
requests and the reader of envelopes go through a text in step, and a request is what its
envelope makes of the document.
-/

set_option autoImplicit false

namespace Tabular

open Json Text

namespace Request

section Fields

variable {α β : Type} (form : Form β)

def fieldsOf (found : Option String × Option β) : Fields α (String → β → α) :=
  .field "datasetId" .text (some "") found.1 (.field "query" form none found.2 .complete)

inductive Sent (depth : Nat) : MemberStep (Option String × Option β) where
  | datasetId {query : Option β} {id : String} {input rest : List Char} :
      Reads (colon.andThen fun _ => Form.text.read depth) input id rest →
      Sent depth (none, query) "datasetId" input (some id, query) rest
  | query {id : Option String} {value : β} {input rest : List Char} :
      Reads (colon.andThen fun _ => form.read depth) input value rest →
      Sent depth (id, none) "query" input (id, some value) rest
  | other {found : Option String × Option β} {name : String} {input rest : List Char} :
      name ≠ "datasetId" → name ≠ "query" →
      Reads (colon.andThen fun _ => skim) input () rest →
      Sent depth found name input found rest

theorem steps_sent (depth : Nat) :
    Steps (fun (fields : Fields α (String → β → α)) key => fields.readMember depth key)
      (fieldsOf form) (Sent form depth) := by
  rintro ⟨id, query⟩ name input reached rest
  constructor
  · intro read
    rcases Fields.reads_readMember_field_iff.mp read with
      ⟨rfl, rfl, _, given, rfl⟩ | ⟨notId, _, passed, rfl⟩
    · exact ⟨_, .datasetId given, rfl⟩
    · rcases Fields.reads_readMember_field_iff.mp passed with
        ⟨rfl, rfl, _, given, rfl⟩ | ⟨notQuery, _, skimmed, rfl⟩
      · exact ⟨_, .query given, rfl⟩
      · obtain ⟨unread, rfl⟩ := Fields.reads_readMember_complete_iff.mp skimmed
        exact ⟨_, .other notId notQuery unread, rfl⟩
  · rintro ⟨next, sent, rfl⟩
    refine Fields.reads_readMember_field_iff.mpr ?_
    cases sent with
    | datasetId read => exact .inl ⟨rfl, rfl, _, read, rfl⟩
    | query read =>
      refine .inr ⟨by decide, _, Fields.reads_readMember_field_iff.mpr ?_, rfl⟩
      exact .inl ⟨rfl, rfl, _, read, rfl⟩
    | other notId notQuery read =>
      refine .inr ⟨notId, _, Fields.reads_readMember_field_iff.mpr ?_, rfl⟩
      exact .inr ⟨notQuery, _, Fields.reads_readMember_complete_iff.mpr ⟨read, rfl⟩, rfl⟩

theorem finish_fieldsOf_iff {found : Option String × Option β} {make : String → β → α}
    {value : α} : (fieldsOf form found).finish make = .ok value ↔
      ∃ query, found.2 = some query ∧ value = make (found.1.getD "") query := by
  obtain ⟨id, query⟩ := found
  cases id <;> cases query <;> simp [fieldsOf, Fields.finish, eq_comm]

theorem reads_readItems_fieldsOf_iff {depth : Nat} {expected : String} {make : String → β → α}
    {input rest : List Char} {value : α} :
    Reads ((fieldsOf form (none, none)).readItems depth expected 0 make) input value rest ↔
      ∃ id query after last,
        Reads (Fields.nextItem true (Form.text.read depth)) input id after ∧
        Reads (Fields.nextItem false (form.read depth)) after (some query) last ∧
        Reads Fields.listEnd last () rest ∧ value = make (id.getD "") query := by
  have fallsBack (id : Option String) : id.or (some "") = some (id.getD "") := by cases id <;> rfl
  rw [fieldsOf, Fields.readItems]
  constructor
  · intro read
    obtain ⟨id, after, first, read⟩ := reads_andThen_iff.mp read
    rw [fallsBack] at read
    dsimp only at read
    rw [Fields.readItems] at read
    obtain ⟨query, last, second, read⟩ := reads_andThen_iff.mp read
    cases query with
    | none => exact absurd read not_reads_fail
    | some query =>
      obtain ⟨_, closed, rfl⟩ := reads_map_iff.mp read
      exact ⟨id, query, after, last, first, second, closed, rfl⟩
  · rintro ⟨id, query, after, last, first, second, closed, rfl⟩
    refine first.andThen ?_
    rw [fallsBack]
    dsimp only
    rw [Fields.readItems]
    exact second.andThen closed.map

/-- A request with this id and this query, as an object of its fields or as the list of them. -/
def Holds (depth : Nat) (input : List Char) (id : String) (query : β) (rest : List Char) : Prop :=
  ∃ left inner found, depth = left + 1 ∧ id = Option.getD found "" ∧
    (input.dropWhile isGap = '\x7b' :: inner ∧
        ReadsMembers (Sent form left) (none, none) inner (found, some query) rest ∨
      input.dropWhile isGap = '[' :: inner ∧
        ∃ after last, Reads (Fields.nextItem true (Form.text.read left)) inner found after ∧
          Reads (Fields.nextItem false (form.read left)) after (some query) last ∧
          Reads Fields.listEnd last () rest)

theorem reads_record_fieldsOf_iff {name : String} {make : String → β → α} {depth : Nat}
    {input rest : List Char} {value : α} :
    Reads ((Form.record name make (fieldsOf form (none, none))).read depth) input value rest ↔
      ∃ id query, Holds form depth input id query rest ∧ value = make id query := by
  constructor
  · intro read
    obtain ⟨left, inner, rfl, ⟨opened, _, read, finished⟩ | ⟨opened, read⟩⟩ :=
      reads_record_iff.mp read
    · obtain ⟨⟨found, _⟩, run, rfl⟩ := (reads_members_iff (steps_sent form left)).mp read
      obtain ⟨query, rfl, rfl⟩ := (finish_fieldsOf_iff form).mp finished
      exact ⟨_, query, ⟨left, inner, found, rfl, rfl, .inl ⟨opened, run⟩⟩, rfl⟩
    · obtain ⟨found, query, after, last, first, second, closed, rfl⟩ :=
        (reads_readItems_fieldsOf_iff form).mp read
      exact ⟨_, query,
        ⟨left, inner, found, rfl, rfl, .inr ⟨opened, after, last, first, second, closed⟩⟩, rfl⟩
  · rintro ⟨_, query, ⟨left, inner, found, rfl, rfl, held⟩, rfl⟩
    refine reads_record_iff.mpr ⟨left, inner, rfl, ?_⟩
    rcases held with ⟨opened, run⟩ | ⟨opened, after, last, first, second, closed⟩
    · exact .inl ⟨opened, _, (reads_members_iff (steps_sent form left)).mpr ⟨_, run, rfl⟩,
        (finish_fieldsOf_iff form).mpr ⟨query, rfl, rfl⟩⟩
    · exact .inr ⟨opened, (reads_readItems_fieldsOf_iff form).mpr
        ⟨found, query, after, last, first, second, closed, rfl⟩⟩

end Fields

/-! ## Requests and their envelopes -/

section InStep

variable {β γ : Type} {form : Form β} {document : Form γ} {f : γ → Option β}

/-- The form takes what `f` makes of what the other form takes. -/
def Decides (form : Form β) (document : Form γ) (f : γ → Option β) : Prop :=
  ∀ (depth : Nat) (input rest : List Char) (value : β),
    Reads (form.read depth) input value rest ↔
      ∃ json, Reads (document.read depth) input json rest ∧ f json = some value

def Alike (f : γ → Option β) (found : Option String × Option γ) (made : Option String × Option β) :
    Prop :=
  found.1 = made.1 ∧ Option.Rel (fun json query => f json = some query) found.2 made.2

theorem Decides.reads_member_iff (decides : Decides form document f) {depth : Nat}
    {input rest : List Char} {value : β} :
    Reads (colon.andThen fun _ => form.read depth) input value rest ↔
      ∃ json, Reads (colon.andThen fun _ => document.read depth) input json rest ∧
        f json = some value :=
  reads_andThen_made_iff (decides depth)

theorem Decides.reads_item_iff (decides : Decides form document f) {first : Bool} {depth : Nat}
    {input rest : List Char} {value : β} :
    Reads (Fields.nextItem first (form.read depth)) input (some value) rest ↔
      ∃ json, Reads (Fields.nextItem first (document.read depth)) input (some json) rest ∧
        f json = some value := by
  simp only [reads_nextItem_iff]
  constructor
  · rintro ⟨inner, opens, read⟩
    obtain ⟨json, given, made⟩ := (decides _ _ _ _).mp read
    exact ⟨json, ⟨inner, opens, given⟩, made⟩
  · rintro ⟨json, ⟨inner, opens, read⟩, made⟩
    exact ⟨inner, opens, (decides _ _ _ _).mpr ⟨json, read, made⟩⟩

theorem inStep_sent (decides : Decides form document f) (depth : Nat) :
    InStep (Alike f) (Sent document depth) (Sent form depth) := by
  rintro ⟨id, json⟩ name input rest reached
  constructor
  · rintro ⟨made, ⟨sameId, sameQuery⟩, sent⟩
    cases sent with
    | datasetId read =>
      obtain rfl : id = none := sameId
      exact ⟨_, .datasetId read, rfl, sameQuery⟩
    | query read =>
      obtain rfl : json = none := by cases sameQuery; rfl
      obtain ⟨json, given, made⟩ := decides.reads_member_iff.mp read
      exact ⟨_, .query given, sameId, .some made⟩
    | other notId notQuery read => exact ⟨_, .other notId notQuery read, sameId, sameQuery⟩
  · rintro ⟨found, sent, sameId, sameQuery⟩
    obtain ⟨id', query⟩ := reached
    cases sent with
    | datasetId read =>
      obtain rfl : _ = id' := sameId
      exact ⟨(none, query), ⟨rfl, sameQuery⟩, .datasetId read⟩
    | query read =>
      obtain rfl : _ = id' := sameId
      cases sameQuery with
      | some made => exact ⟨_, ⟨rfl, .none⟩, .query (decides.reads_member_iff.mpr ⟨_, read, made⟩)⟩
    | other notId notQuery read => exact ⟨_, ⟨sameId, sameQuery⟩, .other notId notQuery read⟩

/-- What stands around a query is read alike, whatever the query is read as. -/
theorem holds_iff (decides : Decides form document f) {depth : Nat} {input rest : List Char}
    {id : String} {query : β} :
    Holds form depth input id query rest ↔
      ∃ json, Holds document depth input id json rest ∧ f json = some query := by
  -- An object is read member by member, in step; in a list it is only the second item that differs.
  constructor
  · rintro ⟨left, inner, found, rfl, rfl, held⟩
    rcases held with ⟨opened, run⟩ | ⟨opened, after, last, first, second, closed⟩
    · have start : Alike f (none, none) (none, none) := ⟨rfl, .none⟩
      obtain ⟨⟨found, _⟩, walked, rfl, made⟩ :=
        (readsMembers_inStep (inStep_sent decides left)).mp ⟨_, start, run⟩
      cases made with
      | some made => exact ⟨_, ⟨left, inner, found, rfl, rfl, .inl ⟨opened, walked⟩⟩, made⟩
    · obtain ⟨json, given, made⟩ := decides.reads_item_iff.mp second
      exact ⟨json,
        ⟨left, inner, found, rfl, rfl, .inr ⟨opened, after, last, first, given, closed⟩⟩, made⟩
  · rintro ⟨json, ⟨left, inner, found, rfl, rfl, held⟩, made⟩
    refine ⟨left, inner, found, rfl, rfl, ?_⟩
    rcases held with ⟨opened, run⟩ | ⟨opened, after, last, first, second, closed⟩
    · have ends : Alike f (found, some json) (found, some query) := ⟨rfl, .some made⟩
      obtain ⟨⟨_, _⟩, ⟨start, nothing⟩, walked⟩ :=
        (readsMembers_inStep (inStep_sent decides left)).mpr ⟨_, run, ends⟩
      cases start
      cases nothing
      exact .inl ⟨opened, walked⟩
    · have given := decides.reads_item_iff.mpr ⟨json, second, made⟩
      exact .inr ⟨opened, after, last, first, given, closed⟩

end InStep

def envelope : Form (String × Json) :=
  .record "QueryRequest" Prod.mk <|
    .withDefault "datasetId" .text "" <| .required "query" (.ofDocument id) .complete

theorem decides_query : Decides Query.form (.ofDocument id) Query.ofJson? := by
  intro depth input rest value
  refine Form.reads_anyOf_iff.trans ?_
  constructor
  · rintro ⟨json, read, made⟩
    exact ⟨json, read.map (f := id), made⟩
  · rintro ⟨_, read, made⟩
    obtain ⟨_, taken, rfl⟩ := reads_map_iff.mp read
    exact ⟨_, taken, made⟩

theorem decode_iff {text : String} {request : Request} :
    form.decode text = .ok request ↔
      ∃ json, envelope.decode text = .ok (request.datasetId, json) ∧
        Query.ofJson? json = some request.query := by
  rw [Form.decode_eq_ok_iff]
  constructor
  · rintro ⟨rest, read, gap⟩
    obtain ⟨_, query, held, rfl⟩ := (reads_record_fieldsOf_iff _).mp read
    obtain ⟨json, held, made⟩ := (holds_iff decides_query).mp held
    exact ⟨json, Form.decode_eq_ok_iff.mpr
      ⟨rest, (reads_record_fieldsOf_iff _).mpr ⟨_, json, held, rfl⟩, gap⟩, made⟩
  · rintro ⟨json, decoded, made⟩
    obtain ⟨rest, read, gap⟩ := Form.decode_eq_ok_iff.mp decoded
    obtain ⟨_, _, held, same⟩ := (reads_record_fieldsOf_iff _).mp read
    cases same
    exact ⟨rest, (reads_record_fieldsOf_iff _).mpr
      ⟨_, _, (holds_iff decides_query).mpr ⟨json, held, made⟩, rfl⟩, gap⟩

end Request

end Tabular
