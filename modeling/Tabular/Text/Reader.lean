/-! Readers: they take something off the front of a text, or report what is wrong with it.

What a reader leaves is never longer than what it was given, which bounds every loop.
-/

set_option autoImplicit false

namespace Tabular.Text

universe u v

structure Parsed (α : Type u) (input : List Char) where
  value : α
  rest : List Char
  within : rest.length ≤ input.length

def Reader (ε : Type) (α : Type u) : Type u := (input : List Char) → Except ε (Parsed α input)

variable {ε : Type} {α : Type u} {β : Type v}

/-- A result read off the end of a text, as read off the whole of it. -/
def behind {input rest : List Char} (within : rest.length ≤ input.length) :
    Except ε (Parsed α rest) → Except ε (Parsed α input)
  | .ok parsed => .ok ⟨parsed.value, parsed.rest, Nat.le_trans parsed.within within⟩
  | .error fault => .error fault

theorem length_dropWhile_le (test : α → Bool) (items : List α) :
    (items.dropWhile test).length ≤ items.length :=
  (List.dropWhile_sublist test).length_le

namespace Reader

def done (value : α) : Reader ε α := fun input => .ok ⟨value, input, Nat.le_refl _⟩

def fail (fault : ε) : Reader ε α := fun _ => .error fault

def andThen (first : Reader ε α) (next : α → Reader ε β) : Reader ε β := fun input =>
  match first input with
  | .ok parsed => behind parsed.within (next parsed.value parsed.rest)
  | .error fault => .error fault

def map (f : α → β) (reader : Reader ε α) : Reader ε β :=
  reader.andThen fun value => done (f value)

def afterOne {c : Char} {rest : List Char} (result : Except ε (Parsed α rest)) :
    Except ε (Parsed α (c :: rest)) :=
  behind (Nat.le_succ _) result

def span (accepts : Char → Bool) : Reader ε (List Char) := fun input =>
  .ok ⟨input.takeWhile accepts, input.dropWhile accepts, length_dropWhile_le accepts input⟩

def orElse (first second : Reader ε α) : Reader ε α := fun input =>
  match first input with
  | .ok parsed => .ok parsed
  | .error _ => second input

/-- Items one after the other, until there is none. An item that takes nothing is the last. -/
def repeated (item : Reader ε (Option α)) : Reader ε (List α) := fun input =>
  match item input with
  | .error fault => .error fault
  | .ok ⟨none, rest, within⟩ => .ok ⟨[], rest, within⟩
  | .ok ⟨some value, rest, within⟩ =>
    if _shorter : rest.length < input.length then
      match repeated item rest with
      | .error fault => .error fault
      | .ok others =>
        .ok ⟨value :: others.value, others.rest, Nat.le_trans others.within within⟩
    else .ok ⟨[value], rest, within⟩
  termination_by input => input.length

end Reader

end Tabular.Text
