import Tabular.Proofs.Interchange.Lenient
import Tabular.Proofs.Query.Partition
import Tabular.Proofs.Service.Cap
import Tabular.Proofs.Sql.Limit

/-! Limits cut where they say.

A statement has no limit when its number has more than 64 bits, and a structured query has the
greatest 64-bit natural for every number beyond it. There are fewer rows than that, in a result as
in a table, so both leave the same rows as the number itself.
-/

set_option autoImplicit false

namespace Tabular

open Json Text

theorem length_orderAndLimit_le (sortBy : Option SortBy) (limit : Option Nat) (rows : List Row) :
    (orderAndLimit sortBy limit rows).length ≤ rows.length := by
  have limited (rows : List Row) : (takeLimit limit rows).length ≤ rows.length := by
    rw [takeLimit_eq_take]
    exact List.length_take_le' _ _
  cases sortBy with
  | none => exact limited rows
  | some sortBy => exact Nat.le_trans (limited _) (Nat.le_of_eq (List.length_mergeSort _))

namespace StructuredQuery

variable {query : StructuredQuery} {rows : List Row}

theorem length_shape_le (query : StructuredQuery) (rows : List Row) :
    (query.shape rows).length ≤ rows.length := by
  unfold shape
  split
  · rw [Group.aggregate, List.length_map]
    exact Group.length_partition_le query.groupBy rows
  · unfold Selection.projectAll
    split
    · exact Nat.le_refl _
    · rw [List.length_map]

theorem length_run_le (query : StructuredQuery) (rows : List Row) :
    (query.run rows).length ≤ rows.length :=
  calc (query.run rows).length
    _ ≤ (query.shape (Filter.keep query.filters rows)).length := length_orderAndLimit_le _ _ _
    _ ≤ (Filter.keep query.filters rows).length := length_shape_le _ _
    _ ≤ rows.length := List.length_filter_le _ _

/-- A number beyond 64 bits and the greatest natural within them are both more than all rows. -/
theorem takeLimit_saturated (few : rows.length < 2 ^ 64) (count : Nat) :
    takeLimit (some (min count (2 ^ 64 - 1))) rows = rows.take count := by
  rw [takeLimit, List.take_eq_take_iff]
  omega

/-- The result of the query is that without a limit, cut behind as many of the first rows. -/
def CutsAt (query : StructuredQuery) (count : Nat) : Prop :=
  ∀ rows : List Row, rows.length < 2 ^ 64 →
    query.run rows = ((query.limitedTo none).run rows).take count

section Limited

variable {members : List (String × Json)} {json : Json} {x : Float} {q : ℚ}

theorem cutsAt_of_limits (number : json.asNumber = some x)
    (stands : Number.value x = (q : WithTop ℚ)) (nonnegative : 0 ≤ q)
    (limits : Limits (some json) query.limit) : query.CutsAt ⌊q⌋₊ := by
  intro rows few
  have counts : query.limit = some (min ⌊q⌋₊ (2 ^ 64 - 1)) :=
    (limits _).mpr ⟨json, x, q, rfl, number, stands, nonnegative, rfl⟩
  have fewer := Nat.lt_of_le_of_lt (length_run_le (query.limitedTo none) rows) few
  calc query.run rows
    _ = takeLimit query.limit ((query.limitedTo none).run rows) :=
      query.run_limitedTo query.limit rows
    _ = ((query.limitedTo none).run rows).take ⌊q⌋₊ := by rw [counts, takeLimit_saturated fewer]

theorem limits_of_form_ofJson? (said : valuesOf "limit" members = [json])
    (finite : ∀ x, json.asNumber = some x → Number.IsFinite x)
    (taken : form.ofJson? (.object members) = some query) : Limits (some json) query.limit := by
  obtain ⟨-, -, -, -, limit⟩ := form_ofJson?_object.mp taken
  rw [said] at limit
  have same : limitOf json = query.limit := Option.some.inj limit
  rw [← same]
  refine limits_limitOf fun other x given number => ?_
  cases given
  exact finite x number

theorem limitedTo_of_becomes {after : StructuredQuery} (silent : valuesOf "limit" members = [])
    (taken : form.ofJson? (.object members) = some query)
    (becomes : LenientField.limit.Becomes (some json) query after) :
    after.limitedTo none = query := by
  obtain ⟨-, -, -, -, limit⟩ := form_ofJson?_object.mp taken
  rw [silent] at limit
  have unlimited : none = query.limit := Option.some.inj limit
  obtain ⟨_, -, rfl⟩ := becomes
  rw [limitedTo, unlimited]

end Limited

end StructuredQuery

/-- The digits of a statement, however many, and the number of a structured query, however great,
leave as many of the first rows as they say. The limit can be added to any query that has none. -/
theorem limits_cut_exactly :
    (∀ (catalog : Catalog) (dataset : Dataset) (table digits : String),
      table ≠ "" → '"' ∉ table.toList → (∀ c ∈ table.toList, isBlank c = false) →
      catalog.get? table = some dataset → dataset.rows.length < 2 ^ 64 →
      digits ≠ "" → (∀ c ∈ digits.toList, isAsciiDigit c = true) →
      Sql.run catalog ("SELECT * FROM " ++ table ++ " LIMIT " ++ digits) =
        dataset.rows.take (Nat.ofDigitChars 10 digits.toList 0)) ∧
    ∀ (json : Json) (x : Float) (q : ℚ),
      json.asNumber = some x → Number.value x = (q : WithTop ℚ) → 0 ≤ q →
      (∀ text members query,
        (Form.ofDocument id).decode text = .ok (.object members) →
        valuesOf "limit" members = [json] →
        StructuredQuery.form.decode text = .ok query → query.CutsAt ⌊q⌋₊) ∧
      (∀ text members datasetId query,
        Request.envelope.decode text = .ok (datasetId, .object members) →
        valuesOf "limit" members = [json] →
        Request.form.decode text = .ok ⟨datasetId, .structured query⟩ → query.CutsAt ⌊q⌋₊) ∧
      ∀ members limited, valuesOf "limit" members = [] → Put "limit" (some json) members limited →
        (∀ text changed query,
          (Form.ofDocument id).decode text = .ok (.object members) →
          (Form.ofDocument id).decode changed = .ok (.object limited) →
          StructuredQuery.form.decode text = .ok query →
          ∃ after, StructuredQuery.form.decode changed = .ok after ∧
            after.limitedTo none = query) ∧
        ∀ text changed datasetId other query,
          Request.envelope.decode text = .ok (datasetId, .object members) →
          Request.envelope.decode changed = .ok (other, .object limited) →
          Request.form.decode text = .ok ⟨datasetId, .structured query⟩ →
          ∃ after, Request.form.decode changed = .ok ⟨other, .structured after⟩ ∧
            after.limitedTo none = query := by
  -- Whatever arrives as a document was read, so the number of its limit is in range.
  have finite {depth : Nat} {members : List (String × Json)} {json : Json}
      (isRead : IsRead depth (.object members)) (said : valuesOf "limit" members = [json]) :
      ∀ x, json.asNumber = some x → Number.IsFinite x := by
    have there : ("limit", json) ∈ members := mem_valuesOf.mp (said ▸ List.mem_singleton_self json)
    exact fun x number => StructuredQuery.isFinite_of_isRead isRead json x there number
  constructor
  · intro catalog dataset table digits named unquoted unblank resident few nonempty accepted
    exact Sql.run_limited named unquoted unblank nonempty accepted resident few
  intro json x q number stands nonnegative
  refine ⟨?alone, ?requested, fun members limited silent put => ⟨?added, ?addedInside⟩⟩
  case alone =>
    intro text members query document said decoded
    have taken := (StructuredQuery.faithful_form.decode_iff document).mp decoded
    obtain ⟨rest, read, -⟩ := Form.exists_reads_of_decode document
    have limits := StructuredQuery.limits_of_form_ofJson? said (finite ⟨_, _, read⟩ said) taken
    exact StructuredQuery.cutsAt_of_limits number stands nonnegative limits
  case requested =>
    intro text members datasetId query sent said decoded
    have taken := ((Request.decode_structured_iff sent).mp decoded).2
    obtain ⟨depth, isRead⟩ := Request.isRead_of_envelope sent
    have limits := StructuredQuery.limits_of_form_ofJson? said (finite isRead said) taken
    exact StructuredQuery.cutsAt_of_limits number stands nonnegative limits
  case added =>
    intro text changed query document documentAfter decoded
    have taken := (StructuredQuery.faithful_form.decode_iff document).mp decoded
    have edits : LenientField.limit.Edits (some json) members limited := put
    obtain ⟨after, decodes, becomes⟩ :=
      StructuredQuery.form_decode_edited edits document documentAfter decoded
    exact ⟨after, decodes, StructuredQuery.limitedTo_of_becomes silent taken becomes⟩
  case addedInside =>
    intro text changed datasetId other query sent sentAfter decoded
    have taken := ((Request.decode_structured_iff sent).mp decoded).2
    have edits : LenientField.limit.Edits (some json) members limited := put
    obtain ⟨after, decodes, becomes⟩ :=
      StructuredQuery.request_decode_edited edits sent sentAfter decoded
    exact ⟨after, decodes, StructuredQuery.limitedTo_of_becomes silent taken becomes⟩

/-- A table that is called LIMIT, a number of more than 64 bits and one and a half rows. -/
theorem limits_cut_exactly_half :
    let dataset : Dataset :=
      ⟨"LIMIT", [], [Row.ofList [("n", .text "1")], Row.ofList [("n", .text "2")]]⟩
    let catalog := Catalog.empty.insert dataset
    let half := Float.ofBits 0x3FF8000000000000
    let members := [("limit", Json.real half)]
    let text := "\x7b\"limit\":1.5\x7d"
    let unlimited := "\x7b\x7d"
    let request (query : String) := "\x7b\"datasetId\":\"sales\",\"query\":" ++ query ++ "\x7d"
    let query : StructuredQuery := { limit := some 1 }
    catalog.get? "LIMIT" = some dataset ∧
    Sql.run catalog "SELECT * FROM LIMIT LIMIT 018446744073709551617" =
      dataset.rows.take (Nat.ofDigitChars 10 "018446744073709551617".toList 0) ∧
    Number.value half = ((3 / 2 : ℚ) : WithTop ℚ) ∧
    (Form.ofDocument id).decode text = .ok (.object members) ∧
    StructuredQuery.form.decode text = .ok query ∧
    Request.envelope.decode (request text) = .ok ("sales", .object members) ∧
    Request.form.decode (request text) = .ok ⟨"sales", .structured query⟩ ∧
    query.CutsAt ⌊(3 / 2 : ℚ)⌋₊ ∧
    (Form.ofDocument id).decode unlimited = .ok (.object []) ∧
    StructuredQuery.form.decode unlimited = .ok {} ∧
    (∃ after, StructuredQuery.form.decode text = .ok after ∧ after.limitedTo none = {}) ∧
    Request.envelope.decode (request unlimited) = .ok ("sales", .object []) ∧
    Request.form.decode (request unlimited) = .ok ⟨"sales", .structured {}⟩ ∧
    ∃ after, Request.form.decode (request text) = .ok ⟨"sales", .structured after⟩ ∧
      after.limitedTo none = {} := by
  intro dataset catalog half members text unlimited request query
  have resident : catalog.get? "LIMIT" = some dataset := by
    simp [catalog, Catalog.get?, Catalog.insert, Catalog.empty, placeById, dataset]
  have few : dataset.rows.length < 2 ^ 64 := by decide
  have finite : Number.IsFinite half := by
    have bounded : (half.isNaN || half.isInf) = false := by decide
    exact bounded
  have stands : Number.value half = ((3 / 2 : ℚ) : WithTop ℚ) := by
    have counted : Number.signedUnits half * 2 = 3 * Number.unitsInOne := by decide +kernel
    have scale : (Number.unitsInOne : ℚ) ≠ 0 :=
      Nat.cast_ne_zero.mpr (Nat.ne_zero_of_lt Number.unitsInOne_pos)
    have quotient : (Number.signedUnits half : ℚ) / Number.unitsInOne = 3 / 2 := by
      rw [div_eq_div_iff scale two_ne_zero]
      exact_mod_cast counted
    rw [Number.value_of_finite finite.isInf, quotient]
  have readable (depth : Nat) : Readable (depth + 1) (.object members) :=
    .object (List.forall_mem_singleton.mpr (.scalar finite))
  have document : (Form.ofDocument id).decode text = .ok (.object members) := by
    have written : text = (Json.object members).render := by decide +kernel
    rw [written]
    exact Form.decode_readable (readable _)
  have documentUnlimited : (Form.ofDocument id).decode unlimited = .ok (.object []) := by
    have written : unlimited = (Json.object []).render := by decide
    rw [written]
    exact Form.decode_readable (.object (List.forall_mem_nil _))
  have sent : Request.envelope.decode (request text) = .ok ("sales", .object members) := by
    have written : request text =
        (Json.object [("datasetId", .text "sales"), ("query", .object members)]).render := by
      decide +kernel
    rw [written]
    exact Request.decode_envelope_render (readable _)
  have sentUnlimited : Request.envelope.decode (request unlimited) = .ok ("sales", .object []) := by
    have written : request unlimited =
        (Json.object [("datasetId", .text "sales"), ("query", .object [])]).render := by decide
    rw [written]
    exact Request.decode_envelope_render (.object (List.forall_mem_nil _))
  have taken : StructuredQuery.form.ofJson? (.object members) = some query := by
    have whole : StructuredQuery.limitOf (.real half) = some 1 := by decide +kernel
    exact StructuredQuery.form_ofJson?_object.mpr ⟨rfl, rfl, rfl, rfl, congrArg some whole⟩
  have takenUnlimited : StructuredQuery.form.ofJson? (.object []) = some {} := by rfl
  have decoded := (StructuredQuery.faithful_form.decode_iff document).mpr taken
  have decodedUnlimited :=
    (StructuredQuery.faithful_form.decode_iff documentUnlimited).mpr takenUnlimited
  have requested := (Request.decode_structured_iff sent).mpr ⟨by rfl, taken⟩
  have requestedUnlimited :=
    (Request.decode_structured_iff sentUnlimited).mpr ⟨by rfl, takenUnlimited⟩
  obtain ⟨statement, structured⟩ := limits_cut_exactly
  obtain ⟨alone, -, added⟩ := structured (.real half) half (3 / 2) rfl stands (by norm_num)
  obtain ⟨addedAlone, addedInside⟩ := added [] members rfl ⟨rfl, rfl⟩
  exact ⟨resident,
    statement catalog dataset "LIMIT" "018446744073709551617" (by decide) (by decide) (by decide)
      resident few (by decide) (by decide),
    stands, document, decoded, sent, requested, alone text members query document rfl decoded,
    documentUnlimited, decodedUnlimited,
    addedAlone unlimited text {} documentUnlimited document decodedUnlimited,
    sentUnlimited, requestedUnlimited,
    addedInside (request unlimited) (request text) "sales" "sales" {} sentUnlimited sent
      requestedUnlimited⟩

end Tabular
