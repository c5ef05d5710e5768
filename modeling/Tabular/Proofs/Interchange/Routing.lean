import Tabular.Proofs.Interchange.Envelope
import Tabular.Proofs.Json.Record

/-! Which requests are statements.

A query is a statement if its object has one type, which is `sql`, and one text of a statement.
Any other object is read as a structured query, and this knows neither of the two members.
-/

set_option autoImplicit false

namespace Tabular

open Json

namespace Query

/-- The members give the type of a statement once, and once the text of one. -/
def Stated (members : List (String × Json)) (statement : String) : Prop :=
  valuesOf "type" members = [.text "sql"] ∧ valuesOf "sql" members = [.text statement]

def unstated (members : List (String × Json)) : List (String × Json) :=
  members.filter fun member => member.1 ∉ ["type", "sql"]

theorem sqlForm_ofJson?_object (members : List (String × Json)) :
    sqlForm.ofJson? (.object members) =
      (Fields.given? (.choice [("sql", ())]) none (valuesOf "type" members)).bind fun _ =>
        Fields.given? .text none (valuesOf "sql" members) := by
  refine (Fields.ofMembers?_field _ members).trans (congrArg _ (funext fun _ => ?_))
  refine (Fields.ofMembers?_field _ _).trans ?_
  rw [valuesOf_besides (by decide)]
  simp only [Fields.ofMembers?_complete]
  exact Option.bind_fun_some _

theorem sqlForm_ofJson?_iff {members : List (String × Json)} {statement : String}
    (typed : ("type", .text "sql") ∈ members) :
    sqlForm.ofJson? (.object members) = some statement ↔ Stated members statement := by
  rw [sqlForm_ofJson?_object]
  constructor
  · intro taken
    obtain ⟨_, type, taken⟩ := Option.bind_eq_some_iff.mp taken
    obtain ⟨json, types, -⟩ := Fields.given?_none_eq_some_iff.mp type
    obtain ⟨_, texts, text⟩ := Fields.given?_none_eq_some_iff.mp taken
    have said : Json.text "sql" ∈ valuesOf "type" members := mem_valuesOf.mpr typed
    rw [types, List.mem_singleton] at said
    obtain rfl := asText_eq_some_iff.mp text
    exact ⟨said ▸ types, texts⟩
  · rintro ⟨types, texts⟩
    rw [types, texts]
    rfl

/-- A structured query knows no member that would make it a statement. -/
theorem structured_ofJson?_unstated (members : List (String × Json)) :
    StructuredQuery.form.ofJson? (.object (unstated members)) =
      StructuredQuery.form.ofJson? (.object members) := by
  refine Fields.ofMembers?_filter _ members fun member _ dropped => ?_
  have concerned : member.1 = "type" ∨ member.1 = "sql" := by
    simpa [Classical.or_iff_not_imp_left] using dropped
  rcases concerned with type | sql
  · rw [type]
    decide
  · rw [sql]
    decide

theorem ofJson?_object_iff {members : List (String × Json)} {query : Query}
    (typed : ("type", .text "sql") ∈ members) :
    ofJson? (.object members) = some query ↔
      (∃ statement, Stated members statement ∧ query = .sql statement) ∨
      (¬∃ statement, Stated members statement) ∧
        ∃ structured, StructuredQuery.form.ofJson? (.object (unstated members)) = some structured ∧
          query = .structured structured := by
  rw [ofJson?, structured_ofJson?_unstated]
  have stated (statement : String) :
      sqlForm.ofJson? (.object members) = some statement ↔ Stated members statement :=
    sqlForm_ofJson?_iff typed
  cases taken : sqlForm.ofJson? (.object members) with
  | some statement =>
    simp only [taken, Option.some.injEq] at stated ⊢
    simp [← stated, eq_comm]
  | none =>
    simp only [taken, reduceCtorEq, false_iff] at stated
    simp [stated, eq_comm]

end Query

namespace Request

/-- A request that says that it is a statement is one if and only if it says so once and has one
text of a statement. Otherwise its other members have to make a structured query, which may ask
for everything. -/
theorem decode_typed_iff {text id : String} {members : List (String × Json)}
    (sent : envelope.decode text = .ok (id, .object members))
    (typed : ("type", .text "sql") ∈ members) (request : Request) :
    form.decode text = .ok request ↔
      request.datasetId = id ∧
        ((∃ statement, Query.Stated members statement ∧ request.query = .sql statement) ∨
          (¬∃ statement, Query.Stated members statement) ∧
            ∃ structured,
              StructuredQuery.form.ofJson? (.object (Query.unstated members)) = some structured ∧
              request.query = .structured structured) := by
  rw [decode_iff, sent, ← Query.ofJson?_object_iff typed]
  constructor
  · rintro ⟨_, same, made⟩
    cases same
    exact ⟨rfl, made⟩
  · rintro ⟨rfl, made⟩
    exact ⟨_, rfl, made⟩

theorem decode_envelope_render {datasetId : String} {json : Json} (readable : Readable 126 json) :
    envelope.decode (Json.object [("datasetId", .text datasetId), ("query", json)]).render =
      .ok (datasetId, json) := by
  have query : Takes ((Form.ofDocument id).read 126) json.compact json := fun rest stops =>
    (readable.takes rest stops).map (f := id)
  exact Form.decode_render <| takes_record <| .field (Form.takes_text _ datasetId) (by simp) <|
    .field query (by simp) (.complete _)

theorem decode_envelope {text datasetId : String} {members : List (String × Json)}
    (plain : ∀ member ∈ members, member.2.Legible)
    (written : text =
      (Json.object [("datasetId", .text datasetId), ("query", .object members)]).render) :
    envelope.decode text = .ok (datasetId, .object members) := by
  rw [written]
  exact decode_envelope_render (.object fun member there => .scalar (plain member there))

/-- A statement may come with a limit of its own, which nothing reads. -/
theorem decode_typed_iff_limited :
    let text :=
      "\x7b\"datasetId\":\"\",\"query\":\x7b\"limit\":1,\"sql\":\"SELECT 1\",\"type\":\"sql\"\x7d\x7d"
    let members := [("limit", Json.integer 1), ("sql", .text "SELECT 1"), ("type", .text "sql")]
    envelope.decode text = .ok ("", .object members) ∧ ("type", .text "sql") ∈ members ∧
    form.decode text = .ok ⟨"", .sql "SELECT 1"⟩ := by
  intro text members
  have plain : ∀ member ∈ members, member.2.Legible := by
    simp [members, Legible, Number.wordLimit, Number.signedLimit]
  have sent : envelope.decode text = .ok ("", .object members) := decode_envelope plain (by decide)
  have typed : ("type", .text "sql") ∈ members := by simp [members]
  have stated : Query.Stated members "SELECT 1" := ⟨rfl, rfl⟩
  exact ⟨sent, typed, (decode_typed_iff sent typed _).mpr ⟨rfl, .inl ⟨_, stated, rfl⟩⟩⟩

/-- A request of this type that has no text of a statement asks for all rows of its dataset. -/
theorem decode_typed_not_statement :
    let text := "\x7b\"datasetId\":\"sales\",\"query\":\x7b\"type\":\"sql\"\x7d\x7d"
    let request : Request := ⟨"sales", .structured {}⟩
    envelope.decode text = .ok ("sales", .object [("type", .text "sql")]) ∧
    form.decode text = .ok request ∧
    ∀ (catalog : Catalog) (dataset : Dataset), catalog.get? "sales" = some dataset →
      request.run catalog = .ofRows dataset.rows := by
  intro text request
  have sent : envelope.decode text = .ok ("sales", .object [("type", .text "sql")]) :=
    decode_envelope (by simp [Legible]) (by decide)
  refine ⟨sent, decode_iff.mpr ⟨_, sent, rfl⟩, fun catalog dataset found => ?_⟩
  have everything : StructuredQuery.run {} dataset.rows = dataset.rows :=
    List.filter_eq_self.mpr fun _ _ => rfl
  simp only [run, runOn, request, found, everything]

end Request

end Tabular
