import Tabular.Text.HiddenRanges

/-! Text as messages quote it: between double quotes, with every character visible. -/

set_option autoImplicit false

namespace Tabular.Text

def hexDigits (n : Nat) : List Char := Nat.toDigits 16 n

/-- A character that does not show on its own is written by its code point. -/
def quoteChar (c : Char) : List Char :=
  match c with
  | '\x00' => ['\\', '0']
  | '\t' => ['\\', 't']
  | '\n' => ['\\', 'n']
  | '\r' => ['\\', 'r']
  | '"' => ['\\', '"']
  | '\\' => ['\\', '\\']
  | ' ' => [' ']
  | c =>
    if inRanges extendRanges c.toNat || inRanges hiddenRanges c.toNat then
      ['\\', 'u', '\x7b'] ++ hexDigits c.toNat ++ ['\x7d']
    else [c]

def quoted (text : String) : String :=
  String.ofList ('"' :: (text.toList.flatMap quoteChar ++ ['"']))

end Tabular.Text
