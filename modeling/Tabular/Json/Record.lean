import Tabular.Json.Form

/-! Records: the forms of structures.

A record is written as an object of its fields, in any order and among other members, or as
the list of its fields in their own order.
-/

set_option autoImplicit false

namespace Tabular.Json

open Text (Reader behind length_dropWhile_le)

/-- The fields that supply the arguments of a constructor `κ` of `α`, from the first. A field
has a value once one has been found, and otherwise falls back to `absent`. -/
inductive Fields (α : Type) : (κ : Type) → Type 1 where
  | complete : Fields α α
  | field {β κ : Type} (name : String) (form : Form β) (absent found : Option β)
      (others : Fields α κ) : Fields α (β → κ)

namespace Fields

variable {α β κ : Type}

def required (name : String) (form : Form β) (others : Fields α κ) : Fields α (β → κ) :=
  .field name form none none others

def withDefault (name : String) (form : Form β) (absent : β) (others : Fields α κ) :
    Fields α (β → κ) :=
  .field name form (some absent) none others

def size {κ : Type} : Fields α κ → Nat
  | .complete => 0
  | .field _ _ _ _ others => others.size + 1

def finish {κ : Type} : Fields α κ → κ → Except Fault α
  | .complete, value => .ok value
  | .field name _ absent found others, make =>
    match found.or absent with
    | some value => others.finish (make value)
    | none => .error (.missingField name)

def readMember {κ : Type} (depth : Nat) (key : String) : Fields α κ → Reading (Fields α κ)
  | .complete => colon.andThen fun _ => skim.map fun _ => .complete
  | .field name form absent found others =>
    if key = name then
      if found.isSome then Reader.fail (.repeatedField name)
      else colon.andThen fun _ =>
        (form.read depth).map fun value => .field name form absent (some value) others
    else (others.readMember depth key).map fun others => .field name form absent found others

def nextItem (first : Bool) (item : Reading β) : Reading (Option β) := afterGap fun
  | [] => .error (.ends .list)
  | c :: rest =>
    if c = ']' then Reader.done none (c :: rest)
    else if first then item.map some (c :: rest)
    else if c ≠ ',' then .error .noListComma
    else if ahead rest = some ']' then .error .trailingComma
    else Reader.afterOne (item.map some rest)

def listEnd : Reading Unit := afterGap fun
  | [] => .error (.ends .list)
  | c :: rest =>
    if c = ']' then Reader.afterOne (Reader.done () rest)
    else if c = ',' ∧ ahead rest = some ']' then .error .trailingComma
    else .error .trailingText

def readItems {κ : Type} (depth : Nat) (expected : String) :
    Fields α κ → (index : Nat) → κ → Reading α
  | .complete, _, value => listEnd.map fun _ => value
  | .field _ form absent _ others, index, make =>
    (nextItem (index == 0) (form.read depth)).andThen fun item =>
      match item.or absent with
      | some value => others.readItems depth expected (index + 1) (make value)
      | none => Reader.fail (.wrongLength index expected)

/-- Fills the field of a member of a document; other members change nothing. -/
def fill? {κ : Type} (key : String) (json : Json) : Fields α κ → Option (Fields α κ)
  | .complete => some .complete
  | .field name form absent found others =>
    if key = name then
      if found.isSome then none
      else match form.ofJson? json with
        | some value => some (.field name form absent (some value) others)
        | none => none
    else match others.fill? key json with
      | some others => some (.field name form absent found others)
      | none => none

def fillAll? {κ : Type} : Fields α κ → List (String × Json) → Option (Fields α κ)
  | fields, [] => some fields
  | fields, (key, json) :: rest =>
    match fields.fill? key json with
    | some filled => filled.fillAll? rest
    | none => none

def ofMembers? {κ : Type} (fields : Fields α κ) (make : κ) (found : List (String × Json)) :
    Option α :=
  (fields.fillAll? found).bind fun filled => (filled.finish make).toOption

def ofItems? {κ : Type} : Fields α κ → κ → List Json → Option α
  | .complete, value, [] => some value
  | .complete, _, _ :: _ => none
  | .field _ form _ _ others, make, item :: rest =>
    (form.ofJson? item).bind fun value => others.ofItems? (make value) rest
  | .field _ _ absent _ others, make, [] =>
    absent.bind fun value => others.ofItems? (make value) []

end Fields

def Form.record {α κ : Type} (name : String) (make : κ) (fields : Fields α κ) : Form α where
  read depth := afterGap fun
    | [] => .error (.ends .value)
    | c :: rest =>
      let kind := "struct " ++ name
      if c = '\x7b' then
        let inside (depth : Nat) : Reading α :=
          (members .careful (fun fields key => fields.readMember depth key) fields).andThen
            fun filled => match filled.finish make with
              | .ok value => Reader.done value
              | .error fault => Reader.fail fault
        Reader.afterOne (enter inside depth rest)
      else if c = '[' then
        let expected := kind ++ " with " ++ toString fields.size ++ " elements"
        Reader.afterOne (enter (fun depth => fields.readItems depth expected 0 make) depth rest)
      else mismatch kind (c :: rest)
  ofJson?
    | .object found => fields.ofMembers? make found
    | .list items => fields.ofItems? make items
    | _ => none

end Tabular.Json
