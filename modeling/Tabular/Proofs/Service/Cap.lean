import Tabular.Service

/-! The limit of a query and the cap of a service.

Both cut an ordered result short, the limit inside the query and the cap after it, so together they
cut where the smaller one does. The cap takes rows off the end and nothing else, and an answer
tells truthfully whether it did.
-/

set_option autoImplicit false

namespace Tabular

section Limits

variable (cap limit : Option Nat) (rows : List Row)

theorem takeLimit_eq_take :
    takeLimit limit rows =
      rows.take (limit.elim rows.length fun count => min count rows.length) := by
  cases limit with
  | none => exact List.take_length.symm
  | some count => exact List.take_eq_take_min

theorem length_takeLimit_lt_iff :
    (takeLimit limit rows).length < rows.length ↔ ∃ count ∈ limit, count < rows.length := by
  cases limit with
  | none => simp [takeLimit]
  | some count =>
    simp only [takeLimit, List.length_take, Option.mem_some_iff, exists_eq_left']
    omega

/-- Two limits one after the other are the smaller one. A missing limit is the greatest. -/
theorem takeLimit_takeLimit :
    takeLimit cap (takeLimit limit rows) = takeLimit (limit.merge min cap) rows := by
  cases cap with
  | none => cases limit <;> rfl
  | some most =>
    cases limit with
    | none => rfl
    | some count => simp only [takeLimit, List.take_take, Option.merge_some_some, Nat.min_comm]

end Limits

namespace StructuredQuery

def limitedTo (query : StructuredQuery) (limit : Option Nat) : StructuredQuery :=
  { query with limit := limit }

theorem run_limitedTo (query : StructuredQuery) (limit : Option Nat) (rows : List Row) :
    (query.limitedTo limit).run rows = takeLimit limit ((query.limitedTo none).run rows) :=
  rfl

end StructuredQuery

theorem Request.data_limitedTo (find : String → Option Dataset) (id : String)
    (query : StructuredQuery) (limit : Option Nat) :
    (runOn find ⟨id, .structured (query.limitedTo limit)⟩).data =
      takeLimit limit (runOn find ⟨id, .structured (query.limitedTo none)⟩).data := by
  cases found : find id with
  | some dataset =>
    simp only [runOn, found, Response.ofRows]
    exact query.run_limitedTo limit dataset.rows
  | none =>
    simp only [runOn, found, Response.ofRows]
    cases limit with
    | none => rfl
    | some count => exact List.take_nil.symm

/-- However its datasets are found, a request is answered with the first rows up to the cap, and
with their number and the number that there were. For a structured query the cap is a limit like
the one that the query has, and a limit leaves the first rows of the result without it. -/
theorem Service.answer_capped (find : String → Option Dataset) (cap : Option Nat)
    (request : Request) :
    let response := request.runOn find
    let answer := Answer.ofRows cap response.data
    (∀ catalog : Catalog, Service.handle ⟨catalog, cap⟩ request =
      Answer.ofRows cap (request.runOn catalog.get?).data) ∧
    answer.data = response.data.take
      (cap.elim response.data.length fun count => min count response.data.length) ∧
    answer.rowCount = answer.data.length ∧
    answer.totalRowCount = response.rowCount ∧
    response.rowCount = response.data.length ∧
    (answer.truncated = true ↔ ∃ count ∈ cap, count < answer.totalRowCount) ∧
    (answer.truncated = true ↔ answer.rowCount < answer.totalRowCount) ∧
    ∀ (id : String) (query : StructuredQuery),
      (Answer.ofRows cap (Request.runOn find ⟨id, .structured query⟩).data).data =
        (Request.runOn find ⟨id, .structured (query.limitedTo (query.limit.merge min cap))⟩).data ∧
      ∀ count : Nat,
        (Request.runOn find ⟨id, .structured (query.limitedTo (some count))⟩).data =
          (Request.runOn find ⟨id, .structured (query.limitedTo none)⟩).data.take count ∧
        ∀ rows : List Row, (query.limitedTo (some count)).run rows =
          ((query.limitedTo none).run rows).take count := by
  intro response answer
  have reported : answer.truncated = true ↔ answer.rowCount < answer.totalRowCount :=
    decide_eq_true_iff
  refine ⟨fun _ => rfl, takeLimit_eq_take cap response.data, rfl, rfl, rfl,
    reported.trans (length_takeLimit_lt_iff cap response.data), reported, fun id query => ⟨?_,
    fun count => ⟨Request.data_limitedTo find id query (some count), fun _ => rfl⟩⟩⟩
  calc takeLimit cap (Request.runOn find ⟨id, .structured query⟩).data
      = takeLimit cap (takeLimit query.limit
          (Request.runOn find ⟨id, .structured (query.limitedTo none)⟩).data) :=
        congrArg (takeLimit cap) (Request.data_limitedTo find id query query.limit)
    _ = takeLimit (query.limit.merge min cap)
          (Request.runOn find ⟨id, .structured (query.limitedTo none)⟩).data :=
        takeLimit_takeLimit cap query.limit _
    _ = (Request.runOn find ⟨id, .structured (query.limitedTo (query.limit.merge min cap))⟩).data :=
        (Request.data_limitedTo find id query _).symm

end Tabular
