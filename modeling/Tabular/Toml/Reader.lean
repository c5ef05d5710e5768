import Tabular.Text.Reader
import Tabular.Toml.Scalar

/-! Reading the parts of TOML texts: gaps, strings, keys, and values of any depth. -/

set_option autoImplicit false

namespace Tabular.Toml

open Text (Reader length_dropWhile_le)

/-- Reading TOML. What is no TOML is refused without a reason. -/
abbrev Reading (α : Type) : Type := Reader Unit α

def refuse {α : Type} : Reading α := Reader.fail ()

def require {α : Type} : Option α → Reading α
  | some value => Reader.done value
  | none => refuse

def char (c : Char) : Reading Unit := fun
  | [] => .error ()
  | head :: rest => if head = c then Reader.afterOne (Reader.done () rest) else .error ()

def peek : Reading (Option Char) := fun input => Reader.done input.head? input

def isGap (c : Char) : Bool := c == ' ' || c == '\t'

def gap : Reading Unit := (Reader.span isGap).map fun _ => ()

def isVisible (c : Char) : Bool := c == '\t' || (' ' ≤ c && c != '\x7f')

def comment : Reading Unit := peek.andThen fun ahead =>
  if ahead = some '#' then (Reader.span isVisible).map fun _ => () else Reader.done ()

def newline : Reading Unit := fun
  | '\r' :: '\n' :: rest => Reader.afterOne (Reader.afterOne (Reader.done () rest))
  | '\n' :: rest => Reader.afterOne (Reader.done () rest)
  | _ => .error ()

def space : Reading Unit :=
  (Reader.repeated (gap.andThen fun _ => comment.andThen fun _ =>
    (newline.map some).orElse (Reader.done none))).map fun _ => ()

def codeChar (count : Nat) : Reading Char := fun input =>
  match Number.readDigits 16 (input.take count) 0 with
  | some code =>
    if (input.take count).length = count && code.isValidChar then
      .ok ⟨Char.ofNat code, input.drop count, by simp⟩
    else .error ()
  | none => .error ()

def escape : Reading Char := fun
  | [] => .error ()
  | c :: rest => Reader.afterOne <| match c with
    | 'b' => Reader.done '\x08' rest
    | 't' => Reader.done '\t' rest
    | 'n' => Reader.done '\n' rest
    | 'f' => Reader.done '\x0c' rest
    | 'r' => Reader.done '\r' rest
    | '"' => Reader.done '"' rest
    | '\\' => Reader.done '\\' rest
    | 'u' => codeChar 4 rest
    | 'U' => codeChar 8 rest
    | _ => .error ()

def linePiece (quote : Char) : Reading (Option (List Char)) := fun
  | [] => .error ()
  | c :: rest =>
    if c = quote then Reader.done none (c :: rest)
    else if c = '\\' && quote == '"' then Reader.afterOne (escape.map (fun found => some [found]) rest)
    else if isVisible c then Reader.afterOne (Reader.done (some [c]) rest)
    else .error ()

def lineString (quote : Char) : Reading (List Char) :=
  (Reader.repeated (linePiece quote)).andThen fun pieces =>
    (char quote).map fun _ => pieces.flatten

/-- The line end and the blanks that a backslash at the end of a line takes away. -/
def joinLines : Reading Unit := gap.andThen fun _ => newline.andThen fun _ =>
  (Reader.span fun c => isGap c || c == '\n' || c == '\r').map fun _ => ()

def blockPiece (quote : Char) : Reading (Option (List Char)) := fun
  | [] => .error ()
  | c :: rest =>
    if c = quote then
      if 3 ≤ ((c :: rest).takeWhile (· == quote)).length then Reader.done none (c :: rest)
      else Reader.afterOne (Reader.done (some [c]) rest)
    else if c = '\\' && quote == '"' then
      Reader.afterOne <|
        ((joinLines.map fun _ => some []).orElse (escape.map fun found => some [found])) rest
    else if isVisible c then Reader.afterOne (Reader.done (some [c]) rest)
    else (newline.map fun _ => some ['\n']) (c :: rest)

/-- Three quotes, and up to two before them that belong to the string. -/
def blockEnd (quote : Char) : Reading (List Char) := fun input =>
  let count := min 5 (input.takeWhile (· == quote)).length
  if 3 ≤ count then
    .ok ⟨List.replicate (count - 3) quote, input.drop count, by simp⟩
  else .error ()

def blockString (quote : Char) : Reading (List Char) :=
  (newline.orElse (Reader.done ())).andThen fun _ =>
  (Reader.repeated (blockPiece quote)).andThen fun pieces =>
  (blockEnd quote).map fun quotes => pieces.flatten ++ quotes

def stringAfter (quote : Char) : Reading (List Char) := fun input =>
  match input with
  | first :: second :: rest =>
    if first = quote && second = quote then
      Reader.afterOne (Reader.afterOne (blockString quote rest))
    else lineString quote (first :: second :: rest)
  | short => lineString quote short

def isBareChar (c : Char) : Bool := c.isAlphanum || c == '_' || c == '-'

def keyPart : Reading String := fun
  | [] => .error ()
  | c :: rest =>
    if c = '"' || c = '\'' then Reader.afterOne ((lineString c).map String.ofList rest)
    else if isBareChar c then (Reader.span isBareChar).map String.ofList (c :: rest)
    else .error ()

def key : Reading (List String) :=
  let part := gap.andThen fun _ => keyPart.andThen fun name => gap.map fun _ => name
  let next : Reading (Option String) := peek.andThen fun ahead =>
    if ahead = some '.' then (char '.').andThen fun _ => part.map some else Reader.done none
  part.andThen fun first => (Reader.repeated next).map fun others => first :: others

def isWordChar (c : Char) : Bool :=
  c.isAlphanum || c == '_' || c == '-' || c == '+' || c == '.' || c == ':'

/-- A word; a date takes a time after a blank with it. -/
def word : Reading (List Char) := (Reader.span isWordChar).andThen fun first =>
  let whole : Reading (List Char) := fun
    | ' ' :: rest => Reader.afterOne ((Reader.span isWordChar).andThen (fun second =>
        if (readDate first).any (fun found => found.2.isEmpty)
            && (second.head?.any Text.isAsciiDigit) then
          Reader.done (first ++ ' ' :: second)
        else refuse) rest)
    | _ => .error ()
  whole.orElse (Reader.done first)

end Tabular.Toml
