import Tabular.Json.Scalar

/-! Lists, objects and whole documents.

The depth of a reader is the number of lists and objects that may still open inside one
another. Skimming has no such bound, and a text as long as the depth can never use it up.
-/

set_option autoImplicit false

namespace Tabular.Json

open Text (Reader behind length_dropWhile_le)

universe u

def maxDepth : Nat := 127

def moreItems {α : Type u} (care : Care) (item : Reading α) : Reading (List α) := fun input =>
  behind (length_dropWhile_le isGap input) <|
    match found : input.dropWhile isGap with
    | [] => .error (.ends .list)
    | c :: rest =>
      if c = ']' then .ok ⟨[], rest, Nat.le_succ _⟩
      else if c ≠ ',' then .error .noListComma
      else if care = .careful ∧ ahead rest = some ']' then .error .trailingComma
      else
        match item rest with
        | .error fault => .error fault
        | .ok first =>
          have : first.rest.length < input.length := by
            have shorter := length_dropWhile_le isGap input
            have within := first.within
            rw [found, List.length_cons] at shorter
            omega
          match moreItems care item first.rest with
          | .error fault => .error fault
          | .ok others =>
            .ok ⟨first.value :: others.value, others.rest,
              Nat.le_succ_of_le (Nat.le_trans others.within first.within)⟩
  termination_by input => input.length

def items {α : Type u} (care : Care) (item : Reading α) : Reading (List α) := fun input =>
  match ahead input with
  | none => .error (.ends .list)
  | some ']' => moreItems care item input
  | some _ =>
    match item input with
    | .error fault => .error fault
    | .ok first =>
      behind first.within <|
        ((moreItems care item).map fun others => first.value :: others) first.rest

def nextName (care : Care) : Reading String := afterGap fun
  | [] => .error (.ends (if care = .careful then .value else .object))
  | c :: rest =>
    if c = '"' then Reader.afterOne (textAfterQuote care rest)
    else if care = .careful ∧ c = '\x7d' then .error .trailingComma
    else .error .badName

/-- The members of an object after its first comma or before its end. Each is read on top of
what the members before it made. -/
def moreMembers {σ : Type u} (care : Care) (member : σ → String → Reading σ) (state : σ) :
    Reading σ := fun input =>
  behind (length_dropWhile_le isGap input) <|
    match found : input.dropWhile isGap with
    | [] => .error (.ends .object)
    | c :: rest =>
      if c = '\x7d' then .ok ⟨state, rest, Nat.le_succ _⟩
      else if c ≠ ',' then .error .noObjectComma
      else
        match (nextName care).andThen (member state) rest with
        | .error fault => .error fault
        | .ok next =>
          have : next.rest.length < input.length := by
            have shorter := length_dropWhile_le isGap input
            have within := next.within
            rw [found, List.length_cons] at shorter
            omega
          behind (Nat.le_succ_of_le next.within) (moreMembers care member next.value next.rest)
  termination_by input => input.length

def members {σ : Type u} (care : Care) (member : σ → String → Reading σ) (state : σ) : Reading σ :=
  afterGap fun
  | [] => .error (.ends .object)
  | c :: rest =>
    if c = '\x7d' then .ok ⟨state, rest, Nat.le_succ _⟩
    else if c = '"' then
      Reader.afterOne <|
        ((textAfterQuote care).andThen fun name =>
          (member state name).andThen fun next => moreMembers care member next) rest
    else .error .badName

def document (care : Care) : (depth : Nat) → Reading Json
  | 0 => afterGap fun
    | [] => .error (.ends .value)
    | c :: rest => if c = '[' ∨ c = '\x7b' then .error .tooDeep else scalar care (c :: rest)
  | depth + 1 => afterGap fun
    | [] => .error (.ends .value)
    | c :: rest =>
      if c = '[' then Reader.afterOne ((items care (document care depth)).map Json.list rest)
      else if c = '\x7b' then
        let member (before : List (String × Json)) (name : String) : Reading (List (String × Json)) :=
          colon.andThen fun _ => (document care depth).map fun value => (name, value) :: before
        Reader.afterOne ((members care member []).map (fun found => .object found.reverse) rest)
      else scalar care (c :: rest)

def skim : Reading Unit := fun input => (document .skimming input.length).map (fun _ => ()) input

end Tabular.Json
