import Tabular.Json.Record
import Tabular.Proofs.Json.Document

/-! Forms read what is printed for their values.

For each way to make a form there is one lemma that says which printed documents it takes and as
which value, given the same of the forms it is made from. A list or an object takes one level of
the depth.
-/

set_option autoImplicit false

namespace Tabular.Json

open Text

namespace Form

variable {α β : Type} {form : Form α} {depth : Nat}

/-- A form that takes the printed document of a value decodes its text as the value. -/
theorem decode_render {json : Json} {value : α}
    (taken : Takes (form.read maxDepth) json.compact value) :
    form.decode json.render = .ok value := by
  have read := taken [] (stops_nil inNumeral)
  have same : json.render.toList = json.compact := String.toList_ofList
  rw [List.append_nil, ← same] at read
  obtain ⟨within, found⟩ := read
  simp only [decode, readAll, found, List.all_nil, if_true]

theorem decode_readable {json : Json} (readable : Readable maxDepth json) :
    (ofDocument id).decode json.render = .ok json :=
  decode_render fun rest stops => (readable.takes rest stops).map

/-- A text is decoded by taking something off its front that leaves nothing but a gap. -/
theorem decode_eq_ok_iff {text : String} {value : α} :
    form.decode text = .ok value ↔
      ∃ rest, Reads (form.read maxDepth) text.toList value rest ∧ rest.all isGap = true := by
  unfold decode readAll
  constructor
  · intro decoded
    split at decoded
    · rename_i parsed found
      split at decoded <;> cases decoded
      rename_i gap
      exact ⟨parsed.rest, ⟨parsed.within, found⟩, gap⟩
    · cases decoded
  · rintro ⟨rest, ⟨within, found⟩, gap⟩
    simp only [found, gap, if_true]

theorem reads_require_iff {fault : Fault} {found : Option α} {input rest : List Char} {value : α} :
    Reads (require fault found) input value rest ↔ found = some value ∧ rest = input := by
  cases found with
  | none => exact ⟨fun read => absurd read not_reads_fail, fun ⟨nothing, _⟩ => nomatch nothing⟩
  | some found => simp only [require, reads_done_iff, Option.some.injEq, eq_comm]

theorem reads_anyOf_iff {name : String} {f : Json → Option α} {input rest : List Char} {value : α} :
    Reads ((anyOf name f).read depth) input value rest ↔
      ∃ json, Reads (document .careful depth) input json rest ∧ f json = some value := by
  simp only [anyOf]
  refine Iff.trans reads_andThen_iff ?_
  simp only [reads_require_iff]
  constructor
  · rintro ⟨json, _, read, made, rfl⟩
    exact ⟨json, read, made⟩
  · rintro ⟨json, read, made⟩
    exact ⟨json, rest, read, made, rfl⟩

theorem takes_anyOf {name : String} {f : Json → Option α} {json : Json} {value : α}
    (legible : json.Legible) (found : f json = some value) :
    Takes ((Form.anyOf name f).read depth) json.compact value := by
  intro rest stops
  change Reads ((document .careful depth).andThen fun json =>
    require (.noMatch name) (f json)) _ _ _
  refine .andThen (takes_document legible depth rest stops) ?_
  rw [found]
  exact .done value rest

theorem takes_text (expected value : String) :
    Takes ((textCalled expected).read depth) (Json.text value).compact value := by
  intro rest _
  rw [compact, printText, List.cons_append, List.append_assoc]
  simp only [textCalled]
  exact reads_afterGap rfl (.afterOne rfl (reads_printText .careful value rest))

theorem takes_choice {choices : List (String × α)} {name : String} {value : α}
    (found : chosen choices name = some value) :
    Takes ((choice choices).read depth) (Json.text name).compact value := by
  intro rest _
  rw [compact, printText, List.cons_append, List.append_assoc]
  simp only [choice]
  refine reads_afterGap rfl (.afterOne rfl (.andThen (reads_printText .careful name rest) ?_))
  rw [found]
  exact .done value rest

theorem takes_count {n : Nat} (bounded : n < Number.wordLimit) :
    Takes (count.read depth) (Json.integer n).compact n := by
  intro rest stops
  have low : -(Number.signedLimit : Int) ≤ n := by omega
  have high : (n : Int) < Number.wordLimit := by omega
  have read := reads_scalar_integer .careful low high stops
  obtain ⟨c, others, chars, digit⟩ := exists_chars_cons (printedNat n)
  rw [chars_printedNat] at chars
  rw [toList_toString_natCast, chars, List.cons_append] at read
  rw [compact, toList_toString_natCast, chars, List.cons_append]
  simp only [count]
  refine reads_afterGap (isGap_of_opensScalar (opensScalar_of_isAsciiDigit digit))
    (.congr (if_pos (.inr digit)) (read.andThen (.congr ?_ (.done n rest))))
  have nonnegative : ¬(n : Int) < 0 := by omega
  simp only [nonnegative, if_false, Int.toNat_natCast]

theorem takes_list {jsons : List Json} {values : List α}
    (taken :
      List.Forall₂ (fun json value => Takes (form.read depth) json.compact value) jsons values) :
    Takes (form.list.read (depth + 1)) (Json.list jsons).compact values := by
  intro rest _
  rw [compact, List.cons_append, List.append_assoc]
  simp only [list]
  exact reads_afterGap rfl (.afterOne rfl (reads_items taken rest))

end Form

/-! ## Records -/

namespace Fields

variable {α : Type} {depth : Nat}

/-- The members supply each field in turn, and with their values `make` gives the result. -/
inductive Supplied (depth : Nat) :
    {κ : Type} → Fields α κ → κ → List (String × Json) → α → Prop where
  | complete (value : α) : Supplied depth .complete value [] value
  | field {β κ : Type} {name : String} {form : Form β} {absent : Option β} {others : Fields α κ}
      {make : β → κ} {json : Json} {value : β} {members : List (String × Json)} {result : α} :
      Takes (form.read depth) json.compact value → name ∉ members.map Prod.fst →
      Supplied depth others (make value) members result →
      Supplied depth (.field name form absent none others) make ((name, json) :: members) result

def TakesFields (depth : Nat) {κ : Type} :
    Fields α κ → List (String × Json) → Fields α κ → Prop :=
  TakesMembers fun fields key => fields.readMember depth key

theorem takesFields_behind {κ β : Type} {name : String} (form : Form β) (absent found : Option β)
    {others filled : Fields α κ} {members : List (String × Json)}
    (taken : TakesFields depth others members filled) (other : name ∉ members.map Prod.fst) :
    TakesFields depth (Fields.field name form absent found others) members
      (Fields.field name form absent found filled) := by
  induction taken with
  | nil => exact .nil _
  | @cons state next last key json members first after ih =>
    rw [List.map_cons, List.mem_cons, not_or] at other
    refine .cons (fun rest stops => ?_) (ih other.2)
    refine .congr ?_ ((first rest stops).map (f := Fields.field name form absent found))
    simp only [readMember, Ne.symm other.1, if_false]

theorem Supplied.takesFields {κ : Type} {fields : Fields α κ} {make : κ}
    {members : List (String × Json)} {result : α}
    (supplied : Supplied depth fields make members result) :
    ∃ filled, TakesFields depth fields members filled ∧ filled.finish make = .ok result := by
  induction supplied with
  | complete value => exact ⟨.complete, .nil _, rfl⟩
  | @field β κ name form absent others make json value members result taken other supplied ih =>
    obtain ⟨filled, rest, finished⟩ := ih
    refine ⟨.field name form absent (some value) filled,
      .cons (fun after stops => ?_) (takesFields_behind form absent (some value) rest other),
      finished⟩
    have read := takes_member (fun value => Fields.field name form absent (some value) others)
      taken after stops
    refine .congr ?_ read
    simp only [readMember, if_true, Option.isSome_none]
    rfl

end Fields

theorem takes_record {α κ : Type} {name : String} {make : κ} {fields : Fields α κ} {depth : Nat}
    {found : List (String × Json)} {value : α}
    (supplied : Fields.Supplied depth fields make found value) :
    Takes ((Form.record name make fields).read (depth + 1)) (Json.object found).compact value := by
  intro rest _
  obtain ⟨filled, taken, finished⟩ := supplied.takesFields
  rw [compact, List.cons_append, List.append_assoc]
  simp only [Form.record, enter]
  refine reads_afterGap rfl (.afterOne rfl ((reads_members taken rest).andThen ?_))
  rw [finished]
  exact .done value rest

end Tabular.Json
