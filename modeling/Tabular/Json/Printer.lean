import Tabular.Json.Basic

/-! Printing documents, on one line or with every item on a line of its own. -/

set_option autoImplicit false

namespace Tabular.Json

def escapeChar (c : Char) : List Char :=
  match c with
  | '"' => ['\\', '"']
  | '\\' => ['\\', '\\']
  | '\x08' => ['\\', 'b']
  | '\x0c' => ['\\', 'f']
  | '\n' => ['\\', 'n']
  | '\r' => ['\\', 'r']
  | '\t' => ['\\', 't']
  | c =>
    if c < ' ' then ['\\', 'u', '0', '0', Nat.digitChar (c.toNat / 16), Nat.digitChar (c.toNat % 16)]
    else [c]

def printText (text : String) : List Char := '"' :: (text.toList.flatMap escapeChar ++ ['"'])

def printReal (value : Float) : List Char :=
  if value.isNaN || value.isInf then ['n', 'u', 'l', 'l'] else Number.finiteText realLayout value

mutual

def compact : Json → List Char
  | .null => ['n', 'u', 'l', 'l']
  | .boolean true => ['t', 'r', 'u', 'e']
  | .boolean false => ['f', 'a', 'l', 's', 'e']
  | .integer value => (toString value).toList
  | .real value => printReal value
  | .text value => printText value
  | .list items => '[' :: (compactItems items ++ [']'])
  | .object members => '\x7b' :: (compactMembers members ++ ['\x7d'])

def compactItems : List Json → List Char
  | [] => []
  | [item] => compact item
  | item :: next :: rest => compact item ++ ',' :: compactItems (next :: rest)

def compactMembers : List (String × Json) → List Char
  | [] => []
  | [(name, value)] => printText name ++ ':' :: compact value
  | (name, value) :: next :: rest =>
    printText name ++ ':' :: (compact value ++ ',' :: compactMembers (next :: rest))

end

def newLine (depth : Nat) : List Char := '\n' :: List.replicate (2 * depth) ' '

mutual

/-- Lists and objects with parts put each part on a line of its own. -/
def pretty (depth : Nat) : Json → List Char
  | .list [] => ['[', ']']
  | .list (item :: rest) =>
    '[' :: (newLine (depth + 1) ++ prettyItems (depth + 1) (item :: rest) ++ newLine depth ++ [']'])
  | .object [] => ['\x7b', '\x7d']
  | .object (member :: rest) =>
    '\x7b' :: (newLine (depth + 1) ++ prettyMembers (depth + 1) (member :: rest) ++ newLine depth
      ++ ['\x7d'])
  | .null => compact .null
  | .boolean value => compact (.boolean value)
  | .integer value => compact (.integer value)
  | .real value => compact (.real value)
  | .text value => compact (.text value)

def prettyItems (depth : Nat) : List Json → List Char
  | [] => []
  | [item] => pretty depth item
  | item :: next :: rest =>
    pretty depth item ++ ',' :: (newLine depth ++ prettyItems depth (next :: rest))

def prettyMembers (depth : Nat) : List (String × Json) → List Char
  | [] => []
  | [(name, value)] => printText name ++ ':' :: ' ' :: pretty depth value
  | (name, value) :: next :: rest =>
    printText name ++ ':' :: ' ' :: (pretty depth value ++ ',' ::
      (newLine depth ++ prettyMembers depth (next :: rest)))

end

def render (json : Json) : String := String.ofList json.compact

def renderLines (json : Json) : String := String.ofList (json.pretty 0)

end Tabular.Json
