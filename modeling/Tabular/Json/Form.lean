import Tabular.Json.Document

/-! Forms: what a JSON text has to look like to stand for something.

A form reads its value straight off a text, where the first fault in the order of the text
is reported, or takes it from a document that has been read already. Both ways agree on
what they accept.
-/

set_option autoImplicit false

namespace Tabular.Json

open Text (Reader behind length_dropWhile_le)

universe u

structure Form (α : Type) where
  read : (depth : Nat) → Reading α
  ofJson? : Json → Option α

/-- The fault of a value that is not what is expected; a fault inside the value comes first. -/
def mismatch {α : Type u} (expected : String) : Reading α := fun
  | [] => .error (.ends .value)
  | c :: rest =>
    if c = '[' then .error (.wrongType (Json.list []).describe expected)
    else if c = '\x7b' then .error (.wrongType (Json.object []).describe expected)
    else match scalar .careful (c :: rest) with
      | .ok found => .error (.wrongType found.value.describe expected)
      | .error fault => .error fault

def enter {α : Type u} (inside : (depth : Nat) → Reading α) : (depth : Nat) → Reading α
  | 0 => Reader.fail .tooDeep
  | depth + 1 => inside depth

def require {α : Type} (fault : Fault) : Option α → Reading α
  | some value => Reader.done value
  | none => Reader.fail fault

namespace Form

variable {α β : Type}

def decode (form : Form α) (text : String) : Except Fault α := readAll (form.read maxDepth) text

def ofDocument (f : Json → α) : Form α where
  read depth := (document .careful depth).map f
  ofJson? json := some (f json)

/-- A value that takes one of several shapes, told apart once the document is read. -/
def anyOf (name : String) (f : Json → Option α) : Form α where
  read depth := (document .careful depth).andThen fun json => require (.noMatch name) (f json)
  ofJson? := f

def textCalled (expected : String) : Form String where
  read _ := afterGap fun
    | [] => .error (.ends .value)
    | c :: rest =>
      if c = '"' then Reader.afterOne (textAfterQuote .careful rest)
      else mismatch expected (c :: rest)
  ofJson? := asText

def text : Form String := textCalled "a string"

def count : Form Nat where
  read _ := afterGap fun
    | [] => .error (.ends .value)
    | c :: rest =>
      if c = '-' ∨ Text.isAsciiDigit c then
        (scalar .careful).andThen (fun
          | .integer value =>
            if value < 0 then Reader.fail (.negative value "usize") else Reader.done value.toNat
          | other => Reader.fail (.wrongType other.describe "usize")) (c :: rest)
      else mismatch "usize" (c :: rest)
  ofJson?
    | .integer value => if value < 0 then none else some value.toNat
    | _ => none

def optional (form : Form α) : Form (Option α) where
  read depth := afterGap fun
    | [] => (form.read depth).map some []
    | c :: rest =>
      if c = 'n' then Reader.afterOne ((wordRest ['u', 'l', 'l']).map (fun _ => none) rest)
      else (form.read depth).map some (c :: rest)
  ofJson?
    | .null => some none
    | json => (form.ofJson? json).map some

def list (form : Form α) : Form (List α) where
  read := fun depth => afterGap fun
    | [] => .error (.ends .value)
    | c :: rest =>
      if c = '[' then
        Reader.afterOne (enter (fun depth => items .careful (form.read depth)) depth rest)
      else mismatch "a sequence" (c :: rest)
  ofJson?
    | .list items => items.mapM form.ofJson?
    | _ => none

def nothing : Form Unit where
  read _ := afterGap fun
    | [] => .error (.ends .value)
    | c :: rest =>
      if c = 'n' then Reader.afterOne (wordRest ['u', 'l', 'l'] rest)
      else mismatch "unit" (c :: rest)
  ofJson?
    | .null => some ()
    | _ => none

def chosen (choices : List (String × α)) (name : String) : Option α :=
  (choices.find? fun choice => choice.1 == name).map Prod.snd

def choiceEnd : Reading Unit := afterGap fun
  | [] => .error (.ends .object)
  | c :: rest => if c = '\x7d' then Reader.afterOne (Reader.done () rest) else .error .noValue

/-- One of several names, alone or as the only member of an object, with null. -/
def choice (choices : List (String × α)) : Form α where
  read depth := afterGap fun
    | [] => .error (.ends .value)
    | c :: rest =>
      let pick (name : String) : Reading α :=
        require (.unknownChoice name (choices.map Prod.fst)) (chosen choices name)
      if c = '"' then Reader.afterOne ((textAfterQuote .careful).andThen pick rest)
      else if c = '\x7b' then
        let inside (depth : Nat) : Reading α :=
          ((textCalled "variant identifier").read depth).andThen fun name =>
          (pick name).andThen fun value =>
          colon.andThen fun _ =>
          (nothing.read depth).andThen fun _ =>
          choiceEnd.map fun _ => value
        Reader.afterOne (enter inside depth rest)
      else .error .noValue
  ofJson?
    | .text name => chosen choices name
    | .object [(name, .null)] => chosen choices name
    | _ => none

end Form

end Tabular.Json
