import Tabular.Text.Utf8

/-! Splitting comma-separated text into records of fields.

A record ends at a line feed or a carriage return, and blank lines hold no record. Inside
quotes commas and line ends belong to the field, and a doubled quote is one quote. What
follows the closing quote of a field still belongs to the field.
-/

set_option autoImplicit false

namespace Tabular.Csv

inductive Position where
  | recordStart
  | fieldStart
  | plain
  | quoted
  /-- Behind a quote that closes the field unless another quote follows. -/
  | afterQuote
  deriving DecidableEq, Repr

def comma : UInt8 := 0x2C

def quote : UInt8 := 0x22

def isLineEnd (byte : UInt8) : Bool := byte == 0x0A || byte == 0x0D

/-- The record under way: its fields, the last one first, and the bytes of the open field,
the last one first. -/
structure Draft where
  position : Position
  fields : List (List UInt8)
  openField : List UInt8

namespace Draft

def start : Draft := ⟨.recordStart, [], []⟩

def closeField (draft : Draft) : Draft := ⟨.fieldStart, draft.openField.reverse :: draft.fields, []⟩

def record (draft : Draft) : List (List UInt8) := draft.closeField.fields.reverse

def put (draft : Draft) (position : Position) (byte : UInt8) : Draft :=
  ⟨position, draft.fields, byte :: draft.openField⟩

/-- A byte outside quotes that opens none; a line end gives the record. -/
def stepPlain (draft : Draft) (byte : UInt8) : Draft × Option (List (List UInt8)) :=
  if byte = comma then (draft.closeField, none)
  else if isLineEnd byte then (start, some draft.record)
  else (draft.put .plain byte, none)

def stepFieldStart (draft : Draft) (byte : UInt8) : Draft × Option (List (List UInt8)) :=
  if byte = quote then (⟨.quoted, draft.fields, draft.openField⟩, none) else draft.stepPlain byte

def step (draft : Draft) (byte : UInt8) : Draft × Option (List (List UInt8)) :=
  match draft.position with
  | .recordStart => if isLineEnd byte then (draft, none) else draft.stepFieldStart byte
  | .fieldStart => draft.stepFieldStart byte
  | .plain => draft.stepPlain byte
  | .quoted =>
    if byte = quote then (⟨.afterQuote, draft.fields, draft.openField⟩, none)
    else (draft.put .quoted byte, none)
  | .afterQuote => if byte = quote then (draft.put .quoted byte, none) else draft.stepPlain byte

/-- The end of the text closes a record that has begun. -/
def finish (draft : Draft) : List (List (List UInt8)) :=
  if draft.position = .recordStart then [] else [draft.record]

end Draft

def recordsFrom (draft : Draft) : List UInt8 → List (List (List UInt8))
  | [] => draft.finish
  | byte :: bytes =>
    match draft.step byte with
    | (next, some record) => record :: recordsFrom next bytes
    | (next, none) => recordsFrom next bytes

def records (bytes : List UInt8) : List (List (List UInt8)) :=
  recordsFrom .start (Text.dropMark bytes)

/-- A field that is not text: its index in the record and the bytes before the bad one. -/
structure BadField where
  field : Nat
  position : Nat
  deriving DecidableEq, Repr

def BadField.message (bad : BadField) : String :=
  "invalid utf-8: invalid UTF-8 in field " ++ toString bad.field ++ " near byte index "
    ++ toString bad.position

def decodeFields (index : Nat) : List (List UInt8) → Except BadField (List String)
  | [] => .ok []
  | field :: fields =>
    match Text.decodeBytes field with
    | .error position => .error ⟨index, position⟩
    | .ok text =>
      match decodeFields (index + 1) fields with
      | .ok texts => .ok (text :: texts)
      | .error bad => .error bad

def decodeRecords : List (List (List UInt8)) → Except BadField (List (List String))
  | [] => .ok []
  | record :: records =>
    match decodeFields 0 record with
    | .error bad => .error bad
    | .ok texts =>
      match decodeRecords records with
      | .ok others => .ok (texts :: others)
      | .error bad => .error bad

end Tabular.Csv
