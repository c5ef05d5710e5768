import Tabular.Toml.Reader
import Tabular.Toml.Table

/-! Values of any depth, and whole TOML documents. -/

set_option autoImplicit false

namespace Tabular.Toml

open Text (Reader)

def maxDepth : Nat := 79

/-- Parts of a list or of a table on one line, with a comma between each two. `last` says
whether there may be a comma behind the last part. -/
def separated {α : Type} (space : Reading Unit) (last : Bool) (part : Reading α) (closing : Char) :
    Reading (List α) :=
  let next : Reading (Option α) := peek.andThen fun ahead =>
    if ahead = some ',' then
      (char ',').andThen fun _ => space.andThen fun _ => peek.andThen fun behind =>
        if last && behind = some closing then Reader.done none
        else part.andThen fun value => space.map fun _ => some value
    else Reader.done none
  space.andThen fun _ => peek.andThen fun ahead =>
    if ahead = some closing then (char closing).map fun _ => []
    else
      part.andThen fun first => space.andThen fun _ =>
      (Reader.repeated next).andThen fun others =>
      (char closing).map fun _ => first :: others

def assignment (value : Reading Toml) : Reading (List String × Toml) :=
  key.andThen fun path => (char '=').andThen fun _ => gap.andThen fun _ =>
    value.map fun value => (path, value)

def assign (entries : Entries) (path : List String) (value : Toml) : Option Entries :=
  match path.getLast? with
  | some name => Entries.add path.dropLast name value entries
  | none => none

def tableOf (assignments : List (List String × Toml)) : Option Toml :=
  (assignments.foldlM (fun entries found => assign entries found.1 found.2) []).map fun entries =>
    .table (Entry.finishAll entries)

def value : (depth : Nat) → Reading Toml := fun depth => peek.andThen fun ahead =>
  match ahead, depth with
  | some '"', _ => (char '"').andThen fun _ => (stringAfter '"').map fun found => .text (String.ofList found)
  | some '\'', _ =>
    (char '\'').andThen fun _ => (stringAfter '\'').map fun found => .text (String.ofList found)
  | some '[', depth + 1 =>
    (char '[').andThen fun _ => (separated space true (value depth) ']').map .list
  | some '\x7b', depth + 1 =>
    (char '\x7b').andThen fun _ =>
      (separated gap false (assignment (value depth)) '\x7d').andThen fun found =>
        require (tableOf found)
  | _, _ => word.andThen fun found => require (ofWord found)

/-- A document under construction: its entries, and the table that assignments go to. -/
structure Draft where
  entries : Entries
  current : List String

def header (draft : Draft) : Reading Draft := (char '[').andThen fun _ => peek.andThen fun ahead =>
  let opening (change : String → Entries → Option Entries) (path : List String) : Reading Draft :=
    match path.getLast? with
    | some name =>
      require ((Entries.within (change name) path.dropLast draft.entries).map fun entries =>
        ⟨entries, path⟩)
    | none => refuse
  if ahead = some '[' then
    (char '[').andThen fun _ => key.andThen fun path => (char ']').andThen fun _ =>
      (char ']').andThen fun _ => opening Entries.openNext path
  else key.andThen fun path => (char ']').andThen fun _ => opening Entries.openTable path

def line (draft : Draft) : Reading Draft := (assignment (value maxDepth)).andThen fun (path, found) =>
  require ((Entries.within (fun entries => assign entries path found) draft.current
    draft.entries).map fun entries => ⟨entries, draft.current⟩)

def lineEnd : Reading Unit := gap.andThen fun _ => comment.andThen fun _ => peek.andThen fun ahead =>
  if ahead = none then Reader.done () else newline

def statement (draft : Draft) (first : Char) : Reading Draft :=
  (if first = '[' then header draft else line draft).andThen fun next => lineEnd.map fun _ => next

def statements (draft : Draft) : Reading Draft := fun input =>
  match space input with
  | .error fault => .error fault
  | .ok ⟨_, [], within⟩ => .ok ⟨draft, [], within⟩
  | .ok ⟨_, c :: rest, _⟩ =>
    match statement draft c (c :: rest) with
    | .error fault => .error fault
    | .ok next =>
      if shorter : next.rest.length < input.length then
        Text.behind (Nat.le_of_lt shorter) (statements next.value next.rest)
      else .error ()
  termination_by input => input.length

def read (text : List Char) : Option (List (String × Toml)) :=
  match statements ⟨[], []⟩ text with
  | .ok parsed => some (Entry.finishAll parsed.value.entries)
  | .error _ => none

end Tabular.Toml
