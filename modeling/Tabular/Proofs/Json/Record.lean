import Tabular.Json.Record

/-! What a record takes from the members of an object.

Each field is given by the members of its name, whatever stands between them: by none, and the
field falls back, or by one that has its form. Members of other names change nothing.
-/

set_option autoImplicit false

namespace Tabular.Json

theorem asText_eq_some_iff {json : Json} {text : String} :
    json.asText = some text ↔ json = .text text := by
  cases json <;> simp [asText]

def valuesOf (name : String) (members : List (String × Json)) : List Json :=
  (members.filter fun member => member.1 = name).map Prod.snd

def besides (name : String) (members : List (String × Json)) : List (String × Json) :=
  members.filter fun member => member.1 ≠ name

theorem mem_valuesOf {name : String} {json : Json} {members : List (String × Json)} :
    json ∈ valuesOf name members ↔ (name, json) ∈ members := by
  simp [valuesOf]

theorem valuesOf_besides {name other : String} (different : name ≠ other)
    (members : List (String × Json)) :
    valuesOf name (besides other members) = valuesOf name members := by
  unfold valuesOf besides
  rw [List.filter_filter]
  congr 1
  refine List.filter_congr fun member _ => ?_
  by_cases same : member.1 = name
  · simp [same, different]
  · simp [same]

/-- The members after a change to one name: it has the value, if there is one, and the members of
other names stay as they are. The value may stand anywhere among them. -/
structure Put (name : String) (value : Option Json) (members edited : List (String × Json)) :
    Prop where
  besides : besides name edited = besides name members
  value : valuesOf name edited = value.toList

theorem Put.valuesOf_of_ne {name other : String} {value : Option Json}
    {members edited : List (String × Json)} (put : Put name value members edited)
    (different : other ≠ name) : valuesOf other edited = valuesOf other members := by
  rw [← valuesOf_besides different, put.besides, valuesOf_besides different]

section Cons

variable {name key : String} (json : Json) (rest : List (String × Json))

theorem valuesOf_cons_self : valuesOf name ((name, json) :: rest) = json :: valuesOf name rest := by
  simp [valuesOf]

theorem valuesOf_cons_of_ne (other : key ≠ name) :
    valuesOf name ((key, json) :: rest) = valuesOf name rest := by
  simp [valuesOf, other]

theorem besides_cons_self : besides name ((name, json) :: rest) = besides name rest := by
  simp [besides]

theorem besides_cons_of_ne (other : key ≠ name) :
    besides name ((key, json) :: rest) = (key, json) :: besides name rest := by
  simp [besides, other]

end Cons

namespace Fields

variable {α β κ : Type}

theorem ofMembers?_cons (fields : Fields α κ) (make : κ) (key : String) (json : Json)
    (rest : List (String × Json)) :
    fields.ofMembers? make ((key, json) :: rest) =
      (fields.fill? key json).bind fun filled => filled.ofMembers? make rest := by
  rw [ofMembers?, fillAll?]
  cases fields.fill? key json <;> rfl

theorem ofMembers?_complete (value : α) (members : List (String × Json)) :
    Fields.complete.ofMembers? value members = some value := by
  induction members with
  | nil => rfl
  | cons member rest ih => exact (ofMembers?_cons _ _ _ _ _).trans ih

def given? (form : Form β) (absent : Option β) : List Json → Option β
  | [] => absent
  | [json] => form.ofJson? json
  | _ :: _ :: _ => none

theorem given?_none_eq_some_iff {form : Form β} {values : List Json} {value : β} :
    given? form none values = some value ↔
      ∃ json, values = [json] ∧ form.ofJson? json = some value := by
  rcases values with - | ⟨json, - | ⟨other, rest⟩⟩ <;> simp [given?]

section Put

variable {name other : String} {value : Option Json} {members edited : List (String × Json)}
  (put : Put name value members edited)

include put

theorem given?_of_put {form : Form β} {absent : Option β} {given : β} (different : other ≠ name)
    (taken : given? form absent (valuesOf other members) = some given) :
    given? form absent (valuesOf other edited) = some given := by
  rw [put.valuesOf_of_ne different, taken]

theorem given?_put (f : Json → β) (absent : β) :
    given? (.ofDocument f) (some absent) (valuesOf name edited) =
      some (value.elim absent f) := by
  rw [put.value]
  cases value <;> rfl

end Put

section Field

variable {name : String} {form : Form β} {absent : Option β} {others : Fields α κ}

theorem ofMembers?_field_found (make : β → κ) (value : β) (members : List (String × Json)) :
    (Fields.field name form absent (some value) others).ofMembers? make members =
      if valuesOf name members = [] then others.ofMembers? (make value) (besides name members)
      else none := by
  induction members generalizing others with
  | nil => rfl
  | cons member rest ih =>
    obtain ⟨key, json⟩ := member
    rw [ofMembers?_cons, fill?]
    by_cases same : key = name
    · subst same
      simp [valuesOf_cons_self]
    · rw [if_neg same, valuesOf_cons_of_ne _ _ same, besides_cons_of_ne _ _ same, ofMembers?_cons]
      cases others.fill? key json with
      | none => simp
      | some filled => exact ih

theorem ofMembers?_field (make : β → κ) (members : List (String × Json)) :
    (Fields.field name form absent none others).ofMembers? make members =
      (given? form absent (valuesOf name members)).bind fun value =>
        others.ofMembers? (make value) (besides name members) := by
  induction members generalizing others with
  | nil => cases absent <;> rfl
  | cons member rest ih =>
    obtain ⟨key, json⟩ := member
    rw [ofMembers?_cons, fill?]
    by_cases same : key = name
    · subst same
      -- This member gives the value, and from here on any other of the name fails.
      rw [valuesOf_cons_self, besides_cons_self, if_pos rfl, Option.isSome_none,
        if_neg Bool.false_ne_true]
      cases values : valuesOf key rest with
      | nil =>
        cases taken : form.ofJson? json <;> simp [given?, taken, ofMembers?_field_found, values]
      | cons other more =>
        cases form.ofJson? json <;> simp [given?, ofMembers?_field_found, values]
    · rw [if_neg same, valuesOf_cons_of_ne _ _ same, besides_cons_of_ne _ _ same]
      cases filled : others.fill? key json with
      | none => simp [ofMembers?_cons, filled]
      | some filled => simp [ofMembers?_cons, ih, filled]

end Field

def names {κ : Type} : Fields α κ → List String
  | .complete => []
  | .field name _ _ _ others => name :: others.names

theorem names_fill? {fields filled : Fields α κ} {key : String} {json : Json}
    (taken : fields.fill? key json = some filled) : filled.names = fields.names := by
  induction fields with
  | complete =>
    cases taken
    rfl
  | field name form absent found others ih =>
    rw [fill?] at taken
    split at taken
    · split at taken
      · cases taken
      · split at taken <;> cases taken
        rfl
    · split at taken <;> cases taken
      rename_i passed
      exact congrArg (List.cons name) (ih passed)

theorem fill?_of_not_mem {fields : Fields α κ} {key : String} (json : Json)
    (unknown : key ∉ fields.names) : fields.fill? key json = some fields := by
  induction fields with
  | complete => rfl
  | field name form absent found others ih =>
    rw [names, List.mem_cons, not_or] at unknown
    rw [fill?, if_neg unknown.1, ih unknown.2]

/-- Members that no field is named after may be left out. -/
theorem ofMembers?_filter {fields : Fields α κ} (make : κ) {keeps : String × Json → Bool}
    (members : List (String × Json))
    (unknown : ∀ member ∈ members, keeps member = false → member.1 ∉ fields.names) :
    fields.ofMembers? make (members.filter keeps) = fields.ofMembers? make members := by
  induction members generalizing fields with
  | nil => rfl
  | cons member rest ih =>
    obtain ⟨key, json⟩ := member
    have later := fun member there => unknown member (List.mem_cons_of_mem _ there)
    cases kept : keeps (key, json) with
    | false =>
      rw [List.filter_cons_of_neg (Bool.not_eq_true _ ▸ kept), ih later, ofMembers?_cons,
        fill?_of_not_mem json (unknown _ List.mem_cons_self kept)]
      rfl
    | true =>
      -- A field that is filled keeps its name, so the same members stay unknown.
      rw [List.filter_cons_of_pos kept, ofMembers?_cons, ofMembers?_cons]
      cases taken : fields.fill? key json with
      | none => rfl
      | some filled => exact ih (names_fill? taken ▸ later)

end Fields

end Tabular.Json
