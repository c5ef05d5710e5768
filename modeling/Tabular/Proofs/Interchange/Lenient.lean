import Tabular.Proofs.Interchange.Routing
import Tabular.Proofs.Json.Agreement

/-! The fields of a structured query that take every document.

The limit, the operators, the aggregations and the direction say nothing wrong, whatever stands
there. So a query that is decoded can be given any document in one of these fields, or lose it, and
it is decoded again as the same query but for that field.
-/

set_option autoImplicit false

namespace Tabular

open Json Text

/-! ## What a document says in such a field -/

namespace StructuredQuery

/-- The limit is the whole part of a number that is not negative, up to the greatest 64-bit
natural, and nothing else is a limit. -/
def Limits (value : Option Json) (limit : Option Nat) : Prop :=
  ∀ count, limit = some count ↔
    ∃ (json : Json) (x : Float) (q : ℚ), value = some json ∧ json.asNumber = some x ∧
      Number.value x = (q : WithTop ℚ) ∧ 0 ≤ q ∧ count = min ⌊q⌋₊ (2 ^ 64 - 1)

theorem limitOf_eq_some_iff {json : Json} {x : Float} (number : json.asNumber = some x)
    (finite : Number.IsFinite x) {count : Nat} :
    limitOf json = some count ↔
      ∃ q : ℚ, Number.value x = (q : WithTop ℚ) ∧ 0 ≤ q ∧ count = min ⌊q⌋₊ (2 ^ 64 - 1) := by
  obtain ⟨q, stands, sign, floor⟩ := Number.exists_value finite
  have greatest : Number.wordLimit - 1 = 2 ^ 64 - 1 := rfl
  rw [limitOf, number]
  dsimp only
  rw [greatest]
  split
  · rename_i negative
    have below : ¬0 ≤ q := by
      rw [sign]
      simpa using negative
    constructor
    · intro same
      cases same
    · rintro ⟨p, again, nonnegative, -⟩
      exact absurd (Number.value_inj stands again ▸ nonnegative) below
  · rename_i positive
    have nonnegative : 0 ≤ q := by
      rw [sign]
      simpa [Classical.or_iff_not_imp_left] using positive
    rw [← floor nonnegative]
    constructor
    · intro same
      cases same
      exact ⟨q, stands, nonnegative, rfl⟩
    · rintro ⟨p, again, -, rfl⟩
      rw [Number.value_inj stands again]

theorem limits_limitOf {value : Option Json}
    (finite : ∀ json x, value = some json → json.asNumber = some x → Number.IsFinite x) :
    Limits value (value.elim none limitOf) := by
  intro count
  cases value with
  | none => simp
  | some json =>
    rw [Option.elim_some]
    cases number : json.asNumber with
    | none => simp [limitOf, number]
    | some x =>
      rw [limitOf_eq_some_iff number (finite json x rfl number)]
      constructor
      · rintro ⟨q, stands⟩
        exact ⟨json, x, q, rfl, number, stands⟩
      · rintro ⟨_, _, q, same, given, stands⟩
        cases same
        cases number.symm.trans given
        exact ⟨q, stands⟩

end StructuredQuery

theorem elim_nameOf {α : Type} {f : String → α} {absent : α} (empty : f "" = absent)
    (value : Option Json) :
    (∃ name, value = some (.text name) ∧
        value.elim absent (fun json => f (nameOf json)) = f name) ∨
      (∀ name, value ≠ some (.text name)) ∧
        value.elim absent (fun json => f (nameOf json)) = absent := by
  cases value with
  | none => exact .inr ⟨by simp, rfl⟩
  | some json =>
    cases json with
    | text name => exact .inl ⟨name, rfl, rfl⟩
    | _ => exact .inr ⟨by simp, empty⟩

def Operator.Named (value : Option Json) (operator : Operator) : Prop :=
  (∀ name, value = some (.text name) → operator = .ofName name) ∧
    ((∀ name, value ≠ some (.text name)) →
      operator = .missing ∧ ∀ cell operand high, operator.holds cell operand high = true)

theorem Operator.named_ofName (value : Option Json) :
    Named value (value.elim missing fun json => ofName (nameOf json)) := by
  have empty : ofName "" = missing := rfl
  rcases elim_nameOf (f := ofName) empty value with ⟨name, rfl, given⟩ | ⟨other, given⟩
  · rw [given]
    refine ⟨fun _ same => ?_, fun other => absurd rfl (other name)⟩
    cases same
    rfl
  · rw [given]
    exact ⟨fun name same => absurd same (other name), fun _ => ⟨rfl, fun _ _ _ => rfl⟩⟩

def Aggregation.Named (value : Option Json) (aggregation : Aggregation) : Prop :=
  ∀ kind ≠ Aggregation.none, aggregation = kind ↔
    ∃ name, value = some (.text name) ∧ Text.asciiLower name = kind.name

theorem Aggregation.ofName_eq_iff {text : String} {kind : Aggregation} (real : kind ≠ .none) :
    ofName text = kind ↔ Text.asciiLower text = kind.name := by
  unfold ofName
  generalize Text.asciiLower text = lowered
  split <;> cases kind <;> simp_all [name]

theorem Aggregation.named_ofName (value : Option Json) :
    Named value (value.elim .none fun json => ofName (nameOf json)) := by
  intro kind real
  have empty : ofName "" = .none := by decide
  rcases elim_nameOf (f := ofName) empty value with ⟨text, rfl, given⟩ | ⟨other, given⟩
  · rw [given, ofName_eq_iff real]
    simp
  · rw [given]
    simpa [other] using real.symm

def Direction.Named (value : Option Json) (direction : Direction) : Prop :=
  direction = .descending ↔
    ∃ name, value = some (.text name) ∧ Text.asciiLower name = "desc"

theorem Direction.ofName_eq_descending_iff {text : String} :
    ofName text = .descending ↔ Text.asciiLower text = "desc" := by
  have lowered : Text.asciiLower "desc" = "desc" := by decide
  simp [ofName, Text.sameIgnoringAsciiCase, lowered]

theorem Direction.named_ofName (value : Option Json) :
    Named value (value.elim .ascending fun json => ofName (nameOf json)) := by
  unfold Named
  have empty : ofName "" = .ascending := by decide
  rcases elim_nameOf (f := ofName) empty value with ⟨text, rfl, given⟩ | ⟨other, given⟩
  · rw [given, ofName_eq_descending_iff]
    simp
  · rw [given]
    simp [other]

/-! ## The fields one by one -/

section Fields

variable {members edited : List (String × Json)} {value : Option Json}

theorem Filter.form_ofJson?_object {filter : Filter} :
    form.ofJson? (.object members) = some filter ↔
      Fields.given? .text (some "") (valuesOf "column" members) = some filter.column ∧
      Fields.given? Operator.form (some .missing) (valuesOf "operator" members) =
        some filter.operator ∧
      Fields.given? Value.form (some .null) (valuesOf "value" members) = some filter.value ∧
      Fields.given? (.optional Value.form) (some none) (valuesOf "value2" members) =
        some filter.high := by
  simp only [form, Form.record, Fields.withDefault, Fields.ofMembers?_field,
    Option.bind_eq_some_iff, valuesOf_besides, ne_eq, String.reduceEq, not_false_eq_true,
    Fields.ofMembers?_complete, Option.some.injEq]
  constructor
  · rintro ⟨column, first, operator, second, operand, third, high, fourth, rfl⟩
    exact ⟨first, second, third, fourth⟩
  · rintro ⟨first, second, third, fourth⟩
    exact ⟨_, first, _, second, _, third, _, fourth, rfl⟩

theorem Selection.ofJson?_object {selection : Selection} :
    ofJson? (.object members) = some selection ↔
      Fields.given? .text none (valuesOf "column" members) = some selection.column ∧
      Fields.given? Aggregation.form (some .none) (valuesOf "aggregation" members) =
        some selection.aggregation ∧
      Fields.given? (.optional .text) (some none) (valuesOf "alias" members) =
        some selection.label := by
  simp only [ofJson?, fields, Fields.withDefault, Fields.required, Fields.ofMembers?_field,
    Option.bind_eq_some_iff, valuesOf_besides, ne_eq, String.reduceEq, not_false_eq_true,
    Fields.ofMembers?_complete, Option.some.injEq]
  constructor
  · rintro ⟨column, first, aggregation, second, label, third, rfl⟩
    exact ⟨first, second, third⟩
  · rintro ⟨first, second, third⟩
    exact ⟨_, first, _, second, _, third, rfl⟩

theorem SortBy.form_ofJson?_object {sortBy : SortBy} :
    form.ofJson? (.object members) = some sortBy ↔
      Fields.given? .text none (valuesOf "column" members) = some sortBy.column ∧
      Fields.given? Direction.form (some .ascending) (valuesOf "direction" members) =
        some sortBy.direction := by
  simp only [form, Form.record, Fields.withDefault, Fields.required, Fields.ofMembers?_field,
    Option.bind_eq_some_iff, valuesOf_besides, ne_eq, String.reduceEq, not_false_eq_true,
    Fields.ofMembers?_complete, Option.some.injEq]
  constructor
  · rintro ⟨column, first, direction, second, rfl⟩
    exact ⟨first, second⟩
  · rintro ⟨first, second⟩
    exact ⟨_, first, _, second, rfl⟩

theorem StructuredQuery.form_ofJson?_object {query : StructuredQuery} :
    form.ofJson? (.object members) = some query ↔
      Fields.given? (.list Selection.form) (some []) (valuesOf "columns" members) =
        some query.columns ∧
      Fields.given? (.list Filter.form) (some []) (valuesOf "filters" members) =
        some query.filters ∧
      Fields.given? (.list .text) (some []) (valuesOf "groupBy" members) = some query.groupBy ∧
      Fields.given? (.optional SortBy.form) (some none) (valuesOf "orderBy" members) =
        some query.orderBy ∧
      Fields.given? (.ofDocument limitOf) (some none) (valuesOf "limit" members) =
        some query.limit := by
  change Fields.ofMembers? (.field "columns" _ _ none (.field "filters" _ _ none
    (.field "groupBy" _ _ none (.field "orderBy" _ _ none (.field "limit" _ _ none .complete)))))
    StructuredQuery.mk members = some query ↔ _
  simp only [Fields.ofMembers?_field, Option.bind_eq_some_iff, Fields.ofMembers?_complete,
    Option.some.injEq]
  simp only [valuesOf_besides, ne_eq, String.reduceEq, not_false_eq_true]
  constructor
  · rintro ⟨columns, first, filters, second, groupBy, third, orderBy, fourth, limit, fifth, rfl⟩
    exact ⟨first, second, third, fourth, fifth⟩
  · rintro ⟨first, second, third, fourth, fifth⟩
    exact ⟨_, first, _, second, _, third, _, fourth, _, fifth, rfl⟩

/-! ### A change to one of them -/

theorem Filter.form_ofJson?_put {filter : Filter} (put : Put "operator" value members edited)
    (taken : form.ofJson? (.object members) = some filter) :
    ∃ operator, Operator.Named value operator ∧
      form.ofJson? (.object edited) = some { filter with operator } := by
  obtain ⟨column, -, operand, high⟩ := form_ofJson?_object.mp taken
  refine ⟨_, Operator.named_ofName value, form_ofJson?_object.mpr ⟨?_, ?_, ?_, ?_⟩⟩
  · exact Fields.given?_of_put put (by decide) column
  · exact Fields.given?_put put _ _
  · exact Fields.given?_of_put put (by decide) operand
  · exact Fields.given?_of_put put (by decide) high

theorem Selection.ofJson?_put {selection : Selection} (put : Put "aggregation" value members edited)
    (taken : ofJson? (.object members) = some selection) :
    ∃ aggregation, Aggregation.Named value aggregation ∧
      ofJson? (.object edited) = some { selection with aggregation } := by
  obtain ⟨column, -, label⟩ := ofJson?_object.mp taken
  refine ⟨_, Aggregation.named_ofName value, ofJson?_object.mpr ⟨?_, ?_, ?_⟩⟩
  · exact Fields.given?_of_put put (by decide) column
  · exact Fields.given?_put put _ _
  · exact Fields.given?_of_put put (by decide) label

theorem SortBy.form_ofJson?_put {sortBy : SortBy} (put : Put "direction" value members edited)
    (taken : form.ofJson? (.object members) = some sortBy) :
    ∃ direction, Direction.Named value direction ∧
      form.ofJson? (.object edited) = some { sortBy with direction } := by
  obtain ⟨column, -⟩ := form_ofJson?_object.mp taken
  refine ⟨_, Direction.named_ofName value, form_ofJson?_object.mpr ⟨?_, ?_⟩⟩
  · exact Fields.given?_of_put put (by decide) column
  · exact Fields.given?_put put _ _

end Fields

/-! ## Lists of which one item changes -/

section Items

variable {α : Type} {f : Json → Option α} {items : List Json} {values : List α} {place : Nat}
  {json : Json}

theorem exists_of_mapM (makes : items.mapM f = some values) (there : items[place]? = some json) :
    ∃ value, values[place]? = some value ∧ f json = some value := by
  induction items generalizing values place with
  | nil => simp at there
  | cons first others ih =>
    obtain ⟨value, rest, made, more, rfl⟩ := mapM_cons_eq_some_iff.mp makes
    cases place with
    | zero =>
      cases there
      exact ⟨value, rfl, made⟩
    | succ place =>
      obtain ⟨value, found, made⟩ := ih more there
      exact ⟨value, found, made⟩

theorem mapM_set {other : Json} {value : α} (makes : items.mapM f = some values)
    (made : f other = some value) :
    (items.set place other).mapM f = some (values.set place value) := by
  induction items generalizing values place with
  | nil =>
    cases makes
    rfl
  | cons first others ih =>
    obtain ⟨old, rest, was, more, rfl⟩ := mapM_cons_eq_some_iff.mp makes
    cases place with
    | zero => exact mapM_cons_eq_some_iff.mpr ⟨value, rest, made, more, rfl⟩
    | succ place => exact mapM_cons_eq_some_iff.mpr ⟨old, _, was, ih more, rfl⟩

end Items

/-! ## Changes to a query -/

/-- The fields of a structured query that take every document; those inside a list are told by
their place. -/
inductive LenientField where
  | limit
  | operator (place : Nat)
  | aggregation (place : Nat)
  | direction

namespace LenientField

def EditsItem (list : String) (place : Nat) (name : String) (value : Option Json)
    (members edited : List (String × Json)) : Prop :=
  ∃ items fields changed, valuesOf list members = [.list items] ∧
    items[place]? = some (.object fields) ∧ Put name value fields changed ∧
    Put list (some (.list (items.set place (.object changed)))) members edited

/-- The members of a query before and after the field gets the value, or loses what it has. A
filter, a column or an order that has the field is an object. -/
def Edits (value : Option Json) (members edited : List (String × Json)) : LenientField → Prop
  | .limit => Put "limit" value members edited
  | .operator place => EditsItem "filters" place "operator" value members edited
  | .aggregation place => EditsItem "columns" place "aggregation" value members edited
  | .direction =>
    ∃ fields changed, valuesOf "orderBy" members = [.object fields] ∧
      Put "direction" value fields changed ∧ Put "orderBy" (some (.object changed)) members edited

/-- The query after the change is the one before it but for the field, which is what the value
says. -/
def Becomes (value : Option Json) (before after : StructuredQuery) : LenientField → Prop
  | .limit => ∃ limit, StructuredQuery.Limits value limit ∧ after = { before with limit }
  | .operator place =>
    ∃ filter operator, before.filters[place]? = some filter ∧ Operator.Named value operator ∧
      after = { before with filters := before.filters.set place { filter with operator } }
  | .aggregation place =>
    ∃ selection aggregation, before.columns[place]? = some selection ∧
      Aggregation.Named value aggregation ∧
      after = { before with columns := before.columns.set place { selection with aggregation } }
  | .direction =>
    ∃ sortBy direction, before.orderBy = some sortBy ∧ Direction.Named value direction ∧
      after = { before with orderBy := some { sortBy with direction } }

end LenientField

namespace StructuredQuery

variable {field : LenientField} {value : Option Json} {members edited : List (String × Json)}
  {query : StructuredQuery}

theorem form_ofJson?_edited (edits : field.Edits value members edited)
    (finite : ∀ json x, ("limit", json) ∈ edited → json.asNumber = some x → Number.IsFinite x)
    (taken : form.ofJson? (.object members) = some query) :
    ∃ after, form.ofJson? (.object edited) = some after ∧ field.Becomes value query after := by
  obtain ⟨columns, filters, groupBy, orderBy, limit⟩ := form_ofJson?_object.mp taken
  cases field with
  | limit =>
    have put : Put "limit" value members edited := edits
    have inRange : ∀ json x, value = some json → json.asNumber = some x → Number.IsFinite x := by
      rintro json x rfl
      have there : json ∈ valuesOf "limit" edited := by simp [put.value]
      exact finite json x (mem_valuesOf.mp there)
    refine ⟨_, form_ofJson?_object.mpr ⟨?_, ?_, ?_, ?_, ?_⟩, _, limits_limitOf inRange, rfl⟩
    · exact Fields.given?_of_put put (by decide) columns
    · exact Fields.given?_of_put put (by decide) filters
    · exact Fields.given?_of_put put (by decide) groupBy
    · exact Fields.given?_of_put put (by decide) orderBy
    · exact Fields.given?_put put _ _
  | operator place =>
    -- The change to the filter makes a change to the list, and this one to the query.
    obtain ⟨items, fields, changed, listed, there, inner, outer⟩ := edits
    rw [listed] at filters
    obtain ⟨filter, found, made⟩ := exists_of_mapM filters there
    obtain ⟨operator, named, makes⟩ := Filter.form_ofJson?_put inner made
    refine ⟨_, form_ofJson?_object.mpr ⟨?_, ?_, ?_, ?_, ?_⟩, filter, operator, found, named, rfl⟩
    · exact Fields.given?_of_put outer (by decide) columns
    · rw [outer.value]
      exact mapM_set filters makes
    · exact Fields.given?_of_put outer (by decide) groupBy
    · exact Fields.given?_of_put outer (by decide) orderBy
    · exact Fields.given?_of_put outer (by decide) limit
  | aggregation place =>
    obtain ⟨items, fields, changed, listed, there, inner, outer⟩ := edits
    rw [listed] at columns
    obtain ⟨selection, found, made⟩ := exists_of_mapM columns there
    obtain ⟨aggregation, named, makes⟩ := Selection.ofJson?_put inner made
    refine ⟨_, form_ofJson?_object.mpr ⟨?_, ?_, ?_, ?_, ?_⟩, selection, aggregation, found, named,
      rfl⟩
    · rw [outer.value]
      exact mapM_set columns makes
    · exact Fields.given?_of_put outer (by decide) filters
    · exact Fields.given?_of_put outer (by decide) groupBy
    · exact Fields.given?_of_put outer (by decide) orderBy
    · exact Fields.given?_of_put outer (by decide) limit
  | direction =>
    obtain ⟨fields, changed, listed, inner, outer⟩ := edits
    rw [listed] at orderBy
    obtain ⟨sortBy, made, found⟩ := Option.map_eq_some_iff.mp orderBy
    obtain ⟨direction, named, makes⟩ := SortBy.form_ofJson?_put inner made
    refine ⟨_, form_ofJson?_object.mpr ⟨?_, ?_, ?_, ?_, ?_⟩, sortBy, direction, found.symm, named,
      rfl⟩
    · exact Fields.given?_of_put outer (by decide) columns
    · exact Fields.given?_of_put outer (by decide) filters
    · exact Fields.given?_of_put outer (by decide) groupBy
    · rw [outer.value]
      exact congrArg (Option.map some) makes
    · exact Fields.given?_of_put outer (by decide) limit

theorem faithful_form : form.Faithful := by
  have value : Value.form.Faithful := Form.faithful_anyOf _ _
  have selection : Selection.form.Faithful := Form.faithful_anyOf _ _
  have filter : Filter.form.Faithful := by
    refine Form.faithful_record ?_ _ _
    exact ⟨Form.faithful_textCalled _, Form.faithful_ofDocument _, value,
      Form.faithful_optional value, trivial⟩
  have sortBy : SortBy.form.Faithful := by
    refine Form.faithful_record ?_ _ _
    exact ⟨Form.faithful_textCalled _, Form.faithful_ofDocument _, trivial⟩
  refine Form.faithful_record ?_ _ _
  exact ⟨Form.faithful_list selection, Form.faithful_list filter,
    Form.faithful_list (Form.faithful_textCalled _), Form.faithful_optional sortBy,
    Form.faithful_ofDocument _, trivial⟩

end StructuredQuery

/-! ## Requests -/

theorem LenientField.Edits.valuesOf_of_not_mem {field : LenientField} {value : Option Json}
    {members edited : List (String × Json)} {name : String}
    (edits : field.Edits value members edited)
    (other : name ∉ ["columns", "filters", "orderBy", "limit"]) :
    valuesOf name edited = valuesOf name members := by
  simp only [List.mem_cons, List.not_mem_nil, or_false, not_or] at other
  obtain ⟨columns, filters, orderBy, limit⟩ := other
  cases field with
  | limit => exact Put.valuesOf_of_ne edits limit
  | operator place =>
    obtain ⟨_, _, _, -, -, -, put⟩ := edits
    exact put.valuesOf_of_ne filters
  | aggregation place =>
    obtain ⟨_, _, _, -, -, -, put⟩ := edits
    exact put.valuesOf_of_ne columns
  | direction =>
    obtain ⟨_, _, -, -, put⟩ := edits
    exact put.valuesOf_of_ne orderBy

theorem Query.ofJson?_structured_iff {json : Json} {query : StructuredQuery} :
    ofJson? json = some (.structured query) ↔
      sqlForm.ofJson? json = none ∧ StructuredQuery.form.ofJson? json = some query := by
  rw [ofJson?]
  cases sqlForm.ofJson? json <;> simp

namespace Request

theorem isRead_of_reads {depth : Nat} {input rest : List Char} {json : Json}
    (read : Reads ((Form.ofDocument id).read depth) input json rest) : IsRead depth json := by
  obtain ⟨_, given, rfl⟩ := reads_map_iff.mp read
  exact ⟨input, rest, given⟩

theorem isRead_of_envelope {text datasetId : String} {json : Json}
    (sent : envelope.decode text = .ok (datasetId, json)) : ∃ depth, IsRead depth json := by
  obtain ⟨rest, read, -⟩ := Form.decode_eq_ok_iff.mp sent
  obtain ⟨_, _, ⟨left, inner, found, -, -, held⟩, same⟩ := (reads_record_fieldsOf_iff _).mp read
  cases same
  rcases held with ⟨-, run⟩ | ⟨-, after, last, -, second, -⟩
  · have keeps : ∀ state name input next rest, Sent (Form.ofDocument id) left state name input next
        rest → (∀ json, state.2 = some json → IsRead left json) →
        ∀ json, next.2 = some json → IsRead left json := by
      intro state name input next rest sent kept
      cases sent with
      | datasetId => exact kept
      | query read =>
        intro json same
        cases same
        obtain ⟨_, middle, -, given⟩ := reads_andThen_iff.mp read
        exact isRead_of_reads given
      | other => exact kept
    exact ⟨left, run.preserves keeps (by simp) json rfl⟩
  · obtain ⟨_, -, given⟩ := reads_nextItem_iff.mp second
    exact ⟨left, isRead_of_reads given⟩

/-- A request for a structured query is one whose query is no statement. -/
theorem decode_structured_iff {text datasetId : String} {json : Json} {query : StructuredQuery}
    (sent : envelope.decode text = .ok (datasetId, json)) :
    form.decode text = .ok ⟨datasetId, .structured query⟩ ↔
      Query.sqlForm.ofJson? json = none ∧ StructuredQuery.form.ofJson? json = some query := by
  rw [← Query.ofJson?_structured_iff, decode_iff]
  constructor
  · rintro ⟨_, again, made⟩
    cases sent.symm.trans again
    exact made
  · exact fun made => ⟨json, sent, made⟩

end Request

namespace StructuredQuery

variable {field : LenientField} {value : Option Json} {members edited : List (String × Json)}
  {text changed : String}

theorem isFinite_of_isRead {depth : Nat} (isRead : IsRead depth (.object edited)) (json : Json)
    (x : Float) (there : ("limit", json) ∈ edited) (number : json.asNumber = some x) :
    Number.IsFinite x := by
  obtain ⟨left, isRead⟩ := isRead.member there
  exact isRead.isFinite number

theorem form_decode_edited {query : StructuredQuery} (edits : field.Edits value members edited)
    (said : (Form.ofDocument id).decode text = .ok (.object members))
    (saidAfter : (Form.ofDocument id).decode changed = .ok (.object edited))
    (decoded : form.decode text = .ok query) :
    ∃ after, form.decode changed = .ok after ∧ field.Becomes value query after := by
  have taken := (faithful_form.decode_iff said).mp decoded
  obtain ⟨rest, read, -⟩ := Form.exists_reads_of_decode saidAfter
  obtain ⟨after, takes, becomes⟩ :=
    form_ofJson?_edited edits (isFinite_of_isRead ⟨_, _, read⟩) taken
  exact ⟨after, (faithful_form.decode_iff saidAfter).mpr takes, becomes⟩

theorem request_decode_edited {datasetId other : String} {query : StructuredQuery}
    (edits : field.Edits value members edited)
    (sent : Request.envelope.decode text = .ok (datasetId, .object members))
    (sentAfter : Request.envelope.decode changed = .ok (other, .object edited))
    (decoded : Request.form.decode text = .ok ⟨datasetId, .structured query⟩) :
    ∃ after, Request.form.decode changed = .ok ⟨other, .structured after⟩ ∧
      field.Becomes value query after := by
  obtain ⟨noStatement, taken⟩ := (Request.decode_structured_iff sent).mp decoded
  obtain ⟨depth, isRead⟩ := Request.isRead_of_envelope sentAfter
  obtain ⟨after, takes, becomes⟩ := form_ofJson?_edited edits (isFinite_of_isRead isRead) taken
  have noStatementAfter : Query.sqlForm.ofJson? (.object edited) = none := by
    rw [Query.sqlForm_ofJson?_object, edits.valuesOf_of_not_mem (by decide),
      edits.valuesOf_of_not_mem (by decide), ← Query.sqlForm_ofJson?_object]
    exact noStatement
  exact ⟨after, (Request.decode_structured_iff sentAfter).mpr ⟨noStatementAfter, takes⟩, becomes⟩

/-- A query that is decoded is decoded again, alone and inside a request, when one of its lenient
fields gets any document or loses what it has, and nothing changes but that field. A text that says
the changed query keeps to the limits on depth and numbers; that is all that is asked of it. -/
theorem decode_edited (edits : field.Edits value members edited) :
    (∀ text changed query,
      (Form.ofDocument id).decode text = .ok (.object members) →
      (Form.ofDocument id).decode changed = .ok (.object edited) →
      form.decode text = .ok query →
      ∃ after, form.decode changed = .ok after ∧ field.Becomes value query after) ∧
    ∀ text changed datasetId other query,
      Request.envelope.decode text = .ok (datasetId, .object members) →
      Request.envelope.decode changed = .ok (other, .object edited) →
      Request.form.decode text = .ok ⟨datasetId, .structured query⟩ →
      ∃ after, Request.form.decode changed = .ok ⟨other, .structured after⟩ ∧
        field.Becomes value query after := by
  exact ⟨fun _ _ _ said saidAfter decoded => form_decode_edited edits said saidAfter decoded,
    fun _ _ _ _ _ sent sentAfter decoded => request_decode_edited edits sent sentAfter decoded⟩

/-- A direction that is a number is as good as none, and the order stays where it is. -/
theorem decode_edited_direction :
    let members := [("orderBy", Json.object [("column", .text "n"), ("direction", .text "desc")])]
    let edited := [("orderBy", Json.object [("column", .text "n"), ("direction", .integer 1)])]
    let text := "\x7b\"orderBy\":\x7b\"column\":\"n\",\"direction\":\"desc\"\x7d\x7d"
    let changed := "\x7b\"orderBy\":\x7b\"column\":\"n\",\"direction\":1\x7d\x7d"
    let query : StructuredQuery := { orderBy := some ⟨"n", .descending⟩ }
    let request (query : String) := "\x7b\"datasetId\":\"sales\",\"query\":" ++ query ++ "\x7d"
    LenientField.direction.Edits (some (.integer 1)) members edited ∧
    (Form.ofDocument id).decode text = .ok (.object members) ∧
    (Form.ofDocument id).decode changed = .ok (.object edited) ∧
    form.decode text = .ok query ∧
    (∃ after, form.decode changed = .ok after ∧
      LenientField.direction.Becomes (some (.integer 1)) query after) ∧
    Request.envelope.decode (request text) = .ok ("sales", .object members) ∧
    Request.envelope.decode (request changed) = .ok ("sales", .object edited) ∧
    Request.form.decode (request text) = .ok ⟨"sales", .structured query⟩ ∧
    ∃ after, Request.form.decode (request changed) = .ok ⟨"sales", .structured after⟩ ∧
      LenientField.direction.Becomes (some (.integer 1)) query after := by
  intro members edited text changed query request
  have ordered {depth : Nat} {direction : Json} (legible : direction.Legible) :
      Readable (depth + 2)
        (.object [("orderBy", .object [("column", .text "n"), ("direction", direction)])]) := by
    refine .object (List.forall_mem_singleton.mpr (.object ?_))
    simp only [List.forall_mem_cons, List.not_mem_nil, false_implies, implies_true, and_true]
    exact ⟨.scalar trivial, .scalar legible⟩
  have legible : (Json.integer 1).Legible := by simp [Legible, Number.wordLimit, Number.signedLimit]
  have edits : LenientField.direction.Edits (some (.integer 1)) members edited :=
    ⟨[("column", .text "n"), ("direction", .text "desc")],
      [("column", .text "n"), ("direction", .integer 1)], rfl, ⟨rfl, rfl⟩, ⟨rfl, rfl⟩⟩
  have said : (Form.ofDocument id).decode text = .ok (.object members) := by
    have written : text = (Json.object members).render := by decide
    rw [written]
    exact Form.decode_readable (ordered trivial)
  have saidAfter : (Form.ofDocument id).decode changed = .ok (.object edited) := by
    have written : changed = (Json.object edited).render := by decide
    rw [written]
    exact Form.decode_readable (ordered legible)
  have sent : Request.envelope.decode (request text) = .ok ("sales", .object members) := by
    have written : request text =
        (Json.object [("datasetId", .text "sales"), ("query", .object members)]).render := by decide
    rw [written]
    exact Request.decode_envelope_render (ordered trivial)
  have sentAfter : Request.envelope.decode (request changed) = .ok ("sales", .object edited) := by
    have written : request changed =
        (Json.object [("datasetId", .text "sales"), ("query", .object edited)]).render := by decide
    rw [written]
    exact Request.decode_envelope_render (ordered legible)
  have decoded : form.decode text = .ok query := (faithful_form.decode_iff said).mpr (by rfl)
  have requested : Request.form.decode (request text) = .ok ⟨"sales", .structured query⟩ :=
    Request.decode_iff.mpr ⟨_, sent, by rfl⟩
  obtain ⟨alone, inside⟩ := decode_edited edits
  exact ⟨edits, said, saidAfter, decoded, alone _ _ _ said saidAfter decoded, sent, sentAfter,
    requested, inside _ _ _ _ _ sent sentAfter requested⟩

end StructuredQuery

end Tabular
