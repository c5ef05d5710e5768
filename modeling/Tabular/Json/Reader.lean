import Tabular.Json.Fault
import Tabular.Text.Reader

/-! Reading JSON texts: gaps, words and colons. -/

set_option autoImplicit false

namespace Tabular.Json

universe u

open Text (Reader behind length_dropWhile_le)

abbrev Reading (α : Type u) : Type u := Reader Fault α

def isGap (c : Char) : Bool := c == ' ' || c == '\n' || c == '\t' || c == '\r'

def afterGap {α : Type u} (reader : Reading α) : Reading α := fun input =>
  behind (length_dropWhile_le isGap input) (reader (input.dropWhile isGap))

def ahead (input : List Char) : Option Char := (input.dropWhile isGap).head?

def wordRest : List Char → Reading Unit
  | [] => Reader.done ()
  | letter :: letters => fun
    | [] => .error (.ends .value)
    | c :: rest => if c = letter then Reader.afterOne (wordRest letters rest) else .error .badWord

def colon : Reading Unit := afterGap fun
  | [] => .error (.ends .object)
  | c :: rest => if c = ':' then Reader.afterOne (Reader.done () rest) else .error .noColon

def readAll {α : Type} (reader : Reading α) (text : String) : Except Fault α :=
  match reader text.toList with
  | .ok parsed => if parsed.rest.all isGap then .ok parsed.value else .error .trailingText
  | .error fault => .error fault

end Tabular.Json
