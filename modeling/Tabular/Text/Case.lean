import Tabular.Text.CasedRanges
import Tabular.Text.LowerRuns

/-! Lower-casing of text.

A capital sigma becomes a final sigma at the end of a word, and a dotted capital I
becomes two characters, so lower-casing acts on text and not on single characters.
ASCII lower-casing leaves every other character alone.
-/

set_option autoImplicit false

namespace Tabular.Text

def lowerCode : List CaseRun → Nat → Nat
  | [], code => code
  | run :: runs, code =>
    if code < run.first then code
    else if code ≤ run.last then
      if (code - run.first) % run.step = 0 then ((code : Int) + run.shift).toNat else code
    else lowerCode runs code

def lowerChar (c : Char) : List Char :=
  if c = 'İ' then ['i', '\u0307'] else [Char.ofNat (lowerCode lowerRuns c.toNat)]

/-- Whether the first character that case rules do not look through is a cased one. -/
def meetsCased : List Char → Bool
  | [] => false
  | c :: rest =>
    if inRanges ignorableRanges c.toNat then meetsCased rest else inRanges casedRanges c.toNat

/-- Lower-casing of the characters after `before`, which is listed from its end. -/
def lowerAfter : (before : List Char) → List Char → List Char
  | _, [] => []
  | before, c :: rest =>
    let lowered :=
      if c = 'Σ' then [if meetsCased before && !meetsCased rest then 'ς' else 'σ']
      else lowerChar c
    lowered ++ lowerAfter (c :: before) rest

def lowerChars (chars : List Char) : List Char := lowerAfter [] chars

def lower (text : String) : String := String.ofList (lowerChars text.toList)

def asciiLower (text : String) : String := String.ofList (text.toList.map Char.toLower)

def sameIgnoringAsciiCase (first second : String) : Bool := asciiLower first == asciiLower second

end Tabular.Text
