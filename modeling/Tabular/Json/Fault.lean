import Tabular.Json.Basic

/-! What can be wrong with a JSON text, alone or as the form of something. -/

set_option autoImplicit false

namespace Tabular.Json

inductive Part where
  | value
  | text
  | list
  | object
  deriving DecidableEq, Repr

inductive Fault.Kind where
  | malformed
  | cutShort
  | unsuitable
  deriving DecidableEq, Repr

inductive Fault where
  | ends (part : Part)
  | badWord
  | noValue
  | noColon
  | noListComma
  | noObjectComma
  | badName
  | trailingComma
  | trailingText
  | badNumber
  | numberTooLarge
  | badEscape
  | halfPair
  | brokenPair
  | controlCharacter
  | tooDeep
  | wrongType (found expected : String)
  | negative (value : Int) (expected : String)
  | wrongLength (length : Nat) (expected : String)
  | missingField (name : String)
  | repeatedField (name : String)
  | unknownChoice (name : String) (choices : List String)
  | noMatch (form : String)
  deriving DecidableEq, Repr

namespace Fault

def kind : Fault → Kind
  | .ends _ => .cutShort
  | .badWord | .noValue | .noColon | .noListComma | .noObjectComma | .badName
  | .trailingComma | .trailingText | .badNumber | .numberTooLarge | .badEscape | .halfPair
  | .brokenPair | .controlCharacter | .tooDeep => .malformed
  | .wrongType _ _ | .negative _ _ | .wrongLength _ _ | .missingField _ | .repeatedField _
  | .unknownChoice _ _ | .noMatch _ => .unsuitable

def ticked (name : String) : String := "\x60" ++ name ++ "\x60"

def message : Fault → String
  | .ends .value => "EOF while parsing a value"
  | .ends .text => "EOF while parsing a string"
  | .ends .list => "EOF while parsing a list"
  | .ends .object => "EOF while parsing an object"
  | .badWord => "expected ident"
  | .noValue => "expected value"
  | .noColon => "expected \x60:\x60"
  | .noListComma => "expected \x60,\x60 or \x60]\x60"
  | .noObjectComma => "expected \x60,\x60 or \x60\x7d\x60"
  | .badName => "key must be a string"
  | .trailingComma => "trailing comma"
  | .trailingText => "trailing characters"
  | .badNumber => "invalid number"
  | .numberTooLarge => "number out of range"
  | .badEscape => "invalid escape"
  | .halfPair => "lone leading surrogate in hex escape"
  | .brokenPair => "unexpected end of hex escape"
  | .controlCharacter => "control character (\\u0000-\\u001F) found while parsing a string"
  | .tooDeep => "recursion limit exceeded"
  | .wrongType found expected => "invalid type: " ++ found ++ ", expected " ++ expected
  | .negative value expected =>
    "invalid value: integer " ++ ticked (toString value) ++ ", expected " ++ expected
  | .wrongLength length expected =>
    "invalid length " ++ toString length ++ ", expected " ++ expected
  | .missingField name => "missing field " ++ ticked name
  | .repeatedField name => "duplicate field " ++ ticked name
  | .unknownChoice name choices =>
    "unknown variant " ++ ticked name ++ ", expected one of " ++ ", ".intercalate (choices.map ticked)
  | .noMatch form => "data did not match any variant of untagged enum " ++ form

end Fault

end Tabular.Json
