import Mathlib.Data.Finset.Card
import Tabular.Interchange.Dataset
import Tabular.Proofs.Json.Form
import Tabular.Proofs.Json.Inversion
import Tabular.Proofs.Row.Insertion

/-! Rows as finite maps in the order of insertion.

A text is a row exactly when it says an object whose members are scalars. The members are inserted
as they come, so a row that is decoded is the one that is collected from them: a name that comes
again keeps its first place and takes the later value.
-/

set_option autoImplicit false

namespace Tabular.Row

open Json Text

/-! ## Members of an object -/

section Members

variable {depth : Nat} {input rest : List Char} {row : Row}

/-- The pairs that the members of an object stand for, one each. -/
def Carries (members : List (String × Json)) (pairs : List (String × Value)) : Prop :=
  List.Forall₂ (fun member pair => member.1 = pair.1 ∧ Value.ofJson? member.2 = some pair.2)
    members pairs

def InsertsMember (depth : Nat) : MemberStep Row := fun row name input next rest =>
  ∃ value, Reads (colon.andThen fun _ => Value.form.read depth) input value rest ∧
    next = row.insert name value

def AddsMember (depth : Nat) : MemberStep (List (String × Json)) :=
  fun before name input next rest =>
    ∃ json, Reads (colon.andThen fun _ => document .careful depth) input json rest ∧
      next = (name, json) :: before

/-- The row that has been collected from the members read so far, the latest of them in front. -/
def Collected (before : List (String × Json)) (row : Row) : Prop :=
  ∃ pairs, Carries before pairs ∧ row = ofList pairs.reverse

theorem steps_insertsMember (depth : Nat) :
    Steps (fun row name => colon.andThen fun _ =>
      (Value.form.read depth).map fun value => row.insert name value) id (InsertsMember depth) := by
  intro row name input reached rest
  refine reads_andThen_map_iff.trans ⟨?_, ?_⟩
  · rintro ⟨value, read, rfl⟩
    exact ⟨_, ⟨value, read, rfl⟩, rfl⟩
  · rintro ⟨_, ⟨value, read, rfl⟩, rfl⟩
    exact ⟨value, read, rfl⟩

theorem steps_addsMember (depth : Nat) :
    Steps (documentMember .careful depth) id (AddsMember depth) := by
  intro before name input reached rest
  refine reads_andThen_map_iff.trans ⟨?_, ?_⟩
  · rintro ⟨json, read, rfl⟩
    exact ⟨_, ⟨json, read, rfl⟩, rfl⟩
  · rintro ⟨_, ⟨json, read, rfl⟩, rfl⟩
    exact ⟨json, read, rfl⟩

theorem reads_memberValue_iff {value : Value} :
    Reads (colon.andThen fun _ => Value.form.read depth) input value rest ↔
      ∃ json, Reads (colon.andThen fun _ => document .careful depth) input json rest ∧
        Value.ofJson? json = some value :=
  reads_andThen_made_iff fun _ _ _ => Form.reads_anyOf_iff

theorem ofList_concat (pairs : List (String × Value)) (name : String) (value : Value) :
    ofList (pairs ++ [(name, value)]) = (ofList pairs).insert name value :=
  (insertAll_ofList pairs [(name, value)]).symm

/-- The row and the document take the same members, one after the other. -/
theorem inStep_collected (depth : Nat) :
    InStep Collected (AddsMember depth) (InsertsMember depth) := by
  intro before name input rest reached
  constructor
  · rintro ⟨_, ⟨pairs, carries, rfl⟩, value, read, rfl⟩
    obtain ⟨json, given, made⟩ := reads_memberValue_iff.mp read
    refine ⟨_, ⟨json, given, rfl⟩, (name, value) :: pairs, .cons ⟨rfl, made⟩ carries, ?_⟩
    rw [List.reverse_cons, ofList_concat]
  · rintro ⟨_, ⟨json, given, rfl⟩, _, carries, rfl⟩
    cases carries with
    | @cons _ pair _ pairs carried carries =>
      obtain ⟨other, value⟩ := pair
      obtain ⟨rfl, made⟩ := carried
      refine ⟨_, ⟨pairs, carries, rfl⟩, value, reads_memberValue_iff.mpr ⟨json, given, made⟩, ?_⟩
      rw [List.reverse_cons, ofList_concat]

theorem collected_nil_iff : Collected [] row ↔ row = empty := by
  constructor
  · rintro ⟨pairs, carries, rfl⟩
    cases carries
    rfl
  · rintro rfl
    exact ⟨[], .nil, rfl⟩

theorem collected_reverse_iff {members : List (String × Json)} :
    Collected members.reverse row ↔ ∃ pairs, Carries members pairs ∧ row = ofList pairs := by
  constructor
  · rintro ⟨pairs, carries, rfl⟩
    refine ⟨pairs.reverse, ?_, rfl⟩
    rw [Carries, ← List.forall₂_reverse_iff, List.reverse_reverse]
    exact carries
  · rintro ⟨pairs, carries, rfl⟩
    refine ⟨pairs.reverse, List.forall₂_reverse_iff.mpr carries, ?_⟩
    rw [List.reverse_reverse]

theorem reads_members_row_iff :
    Reads (members .careful (fun row name => colon.andThen fun _ =>
        (Value.form.read depth).map fun value => row.insert name value) empty) input row rest ↔
      ∃ found, Reads (members .careful (documentMember .careful depth) []) input found rest ∧
        Collected found row := by
  have inStep : (∃ other, Collected [] other ∧
      ReadsMembers (InsertsMember depth) other input row rest) ↔
      ∃ last, ReadsMembers (AddsMember depth) [] input last rest ∧ Collected last row :=
    readsMembers_inStep (inStep_collected depth)
  constructor
  · intro read
    obtain ⟨_, run, rfl⟩ := (reads_members_iff (steps_insertsMember depth)).mp read
    obtain ⟨found, run, collected⟩ := inStep.mp ⟨_, collected_nil_iff.mpr rfl, run⟩
    exact ⟨found, (reads_members_iff (steps_addsMember depth)).mpr ⟨found, run, rfl⟩, collected⟩
  · rintro ⟨_, read, collected⟩
    obtain ⟨reached, run, rfl⟩ := (reads_members_iff (steps_addsMember depth)).mp read
    obtain ⟨_, start, run⟩ := inStep.mpr ⟨_, run, collected⟩
    obtain rfl := collected_nil_iff.mp start
    exact (reads_members_iff (steps_insertsMember depth)).mpr ⟨row, run, rfl⟩

/-- A row is read off a text where an object is, and collected from its members. -/
theorem reads_form_iff :
    Reads (form.read depth) input row rest ↔
      ∃ members pairs, Reads (document .careful depth) input (.object members) rest ∧
        Carries members pairs ∧ row = ofList pairs := by
  simp only [form]
  refine Iff.trans reads_afterGap_iff ?_
  constructor
  · intro read
    cases tail : input.dropWhile isGap with
    | nil =>
      rw [tail] at read
      cases read.2
    | cons c inner =>
      rw [tail] at read
      obtain ⟨within, found⟩ := read
      dsimp only at found
      split at found
      · rename_i brace
        obtain ⟨left, rfl, read⟩ := reads_enter_iff.mp (reads_behind_iff.mp ⟨within, found⟩)
        obtain ⟨found, read, collected⟩ := reads_members_row_iff.mp read
        rw [← List.reverse_reverse found] at read collected
        obtain ⟨pairs, carries, made⟩ := collected_reverse_iff.mp collected
        exact ⟨_, pairs, reads_document_iff.mpr (.object (brace ▸ tail) read), carries, made⟩
      · exact absurd ⟨within, found⟩ not_reads_mismatch
  · rintro ⟨members, pairs, read, carries, made⟩
    obtain ⟨left, inner, rfl, brace, read⟩ := exists_brace_of_object read
    rw [brace]
    refine .afterOne rfl (reads_enter_iff.mpr ⟨left, rfl, reads_members_row_iff.mpr ?_⟩)
    exact ⟨_, read, collected_reverse_iff.mpr ⟨pairs, carries, made⟩⟩

theorem decode_iff {text : String} :
    form.decode text = .ok row ↔
      ∃ members pairs, (Form.ofDocument id).decode text = .ok (.object members) ∧
        Carries members pairs ∧ row = ofList pairs := by
  simp only [Form.decode_eq_ok_iff]
  constructor
  · rintro ⟨rest, read, gap⟩
    obtain ⟨members, pairs, read, made⟩ := reads_form_iff.mp read
    exact ⟨members, pairs, ⟨rest, read.map, gap⟩, made⟩
  · rintro ⟨members, pairs, ⟨rest, read, gap⟩, made⟩
    obtain ⟨_, read, rfl⟩ := reads_map_iff.mp read
    exact ⟨rest, reads_form_iff.mpr ⟨members, pairs, read, made⟩, gap⟩

end Members

/-! ## The map of a sequence of pairs -/

section Map

theorem contains_eq_isSome_get? (row : Row) (name : String) :
    row.contains name = (row.get? name).isSome := by
  rw [contains, get?, Option.isSome_map, List.isSome_find?]

theorem get?_ofList_last {front rest : List (String × Value)} {name : String}
    (last : name ∉ rest.map Prod.fst) (value : Value) :
    (ofList (front ++ (name, value) :: rest)).get? name = some value := by
  have later : (rest.reverse.find? fun pair => pair.1 == name) = none := by
    rw [List.find?_eq_none]
    intro pair member same
    exact last (List.mem_map.mpr ⟨pair, List.mem_reverse.mp member, beq_iff_eq.mp same⟩)
  rw [get?_ofList, List.reverse_append, List.reverse_cons, List.find?_append, List.find?_append,
    later]
  simp

theorem get?_ofList_eq_none {pairs : List (String × Value)} {name : String}
    (absent : name ∉ pairs.map Prod.fst) : (ofList pairs).get? name = none := by
  rw [get?_eq_none_iff, columns_ofList, mem_firstSeen]
  exact absent

theorem size_eq_card (row : Row) : row.size = row.columns.toFinset.card := by
  rw [columns, List.toFinset_card_of_nodup row.distinct, List.length_map, size]

theorem toFinset_firstSeen (names : List String) : (firstSeen names).toFinset = names.toFinset := by
  ext name
  rw [List.mem_toFinset, List.mem_toFinset, mem_firstSeen]

theorem size_ofList (pairs : List (String × Value)) :
    (ofList pairs).size = (pairs.map Prod.fst).toFinset.card := by
  rw [size_eq_card, columns_ofList, toFinset_firstSeen]

/-- A text is decoded as a row if and only if it says an object of scalars, and then as the row
collected from its members. A row that pairs are inserted into, one after the other, is a map: its
columns are the names of the pairs, each once, in the order in which they first came, and a name
has the value that came last under it. Inserting a name that is there changes its value alone. -/
theorem map_of_insertions :
    (∀ (text : String) (row : Row), form.decode text = .ok row ↔
      ∃ members pairs, (Form.ofDocument id).decode text = .ok (.object members) ∧
        Carries members pairs ∧ row = ofList pairs) ∧
    ∀ pairs : List (String × Value),
      let row := ofList pairs
      let names := pairs.map Prod.fst
      row = pairs.foldl (fun row pair => row.insert pair.1 pair.2) empty ∧
      row.columns.Nodup ∧
      (∀ name, name ∈ row.columns ↔ name ∈ names) ∧
      row.columns.Pairwise (fun first second => names.idxOf first < names.idxOf second) ∧
      row.size = names.toFinset.card ∧
      (∀ front name value rest, pairs = front ++ (name, value) :: rest →
        name ∉ rest.map Prod.fst → row.get? name = some value) ∧
      (∀ name, name ∉ names → row.get? name = none) ∧
      (∀ name, row.contains name = (row.get? name).isSome) ∧
      ∀ name ∈ row.columns, ∀ value,
        (row.insert name value).columns = row.columns ∧
        (row.insert name value).get? name = some value ∧
        ∀ other, other ≠ name → (row.insert name value).get? other = row.get? other := by
  refine ⟨fun _ _ => decode_iff, fun pairs => ?_⟩
  intro row names
  have columns : row.columns = firstSeen names := columns_ofList pairs
  refine ⟨rfl, row.distinct, fun name => ?_, ?_, size_ofList pairs, ?_, ?_,
    row.contains_eq_isSome_get?, fun name member value => ⟨?_, ?_, ?_⟩⟩
  · rw [columns, mem_firstSeen]
  · rw [columns]
    exact firstSeen_pairwise_idxOf names
  · rintro front name value rest same last
    change (ofList pairs).get? name = some value
    rw [same]
    exact get?_ofList_last last value
  · exact fun name absent => get?_ofList_eq_none absent
  · rw [columns_insert, if_pos member]
  · rw [get?_insert, if_pos rfl]
  · intro other different
    rw [get?_insert, if_neg different.symm]

/-- The first column of this object comes twice; it stays the first and has the later value. -/
theorem map_of_insertions_repeated :
    let text := "\x7b\"region\":\"North\",\"sold\":true,\"region\":null\x7d"
    let pairs := [("region", Value.text "North"), ("sold", .boolean true), ("region", .null)]
    form.decode text = .ok (ofList pairs) ∧
    (ofList pairs).columns = ["region", "sold"] ∧
    "region" ∉ List.map Prod.fst ([] : List (String × Value)) ∧
    (ofList pairs).get? "region" = some .null ∧
    "shop" ∉ pairs.map Prod.fst ∧ (ofList pairs).get? "shop" = none ∧
    "sold" ∈ (ofList pairs).columns ∧ "region" ≠ "sold" ∧
    ((ofList pairs).insert "sold" .null).get? "region" = some .null := by
  intro text pairs
  let members := [("region", Json.text "North"), ("sold", .boolean true), ("region", .null)]
  have said : (Form.ofDocument id).decode text = .ok (.object members) := by
    have plain : ∀ member ∈ members, member.2.Legible := by simp [members, Legible]
    have readable : Readable maxDepth (.object members) :=
      .object fun member there => .scalar (plain member there)
    have written : text = (Json.object members).render := by decide
    rw [written]
    exact Form.decode_readable readable
  have carries : Carries members pairs :=
    .cons ⟨rfl, rfl⟩ (.cons ⟨rfl, rfl⟩ (.cons ⟨rfl, rfl⟩ .nil))
  obtain ⟨decoded, map⟩ := map_of_insertions
  obtain ⟨-, -, -, -, -, last, absent, -, overwritten⟩ := map pairs
  have region : (ofList pairs).get? "region" = some .null :=
    last [("region", .text "North"), ("sold", .boolean true)] "region" .null [] rfl (by decide)
  refine ⟨(decoded text _).mpr ⟨members, pairs, said, carries, rfl⟩, by decide, by decide, region,
    by decide, absent "shop" (by decide), by decide, by decide, ?_⟩
  rw [(overwritten "sold" (by decide) .null).2.2 "region" (by decide), region]

end Map

end Tabular.Row
