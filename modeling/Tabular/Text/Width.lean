import Tabular.Text.EmojiRanges
import Tabular.Text.WidthRanges

/-! The number of terminal columns that a line of text takes.

Most characters take as many columns by themselves as they do among others. An emoji made
of several characters takes two: one with a selector, one with a skin tone, and emoji
joined to one. Text is measured from its end, so that each character is seen with what
follows it.
-/

set_option autoImplicit false

namespace Tabular.Text

def charWidth (c : Char) : Nat :=
  if inRanges zeroWidthRanges c.toNat then 0
  else if inRanges wideRanges c.toNat then 2
  else 1

def isEmoji (c : Char) : Bool := inRanges emojiRanges c.toNat

def takesSelector (c : Char) : Bool := isEmoji c || inRanges styledRanges c.toNat

def takesTone (c : Char) : Bool := inRanges tonedRanges c.toNat

def isTone (c : Char) : Bool := 0x1F3FB ≤ c.toNat && c.toNat ≤ 0x1F3FF

/-- Whether the selector of plain text makes an emoji narrow; it does outside one block. -/
def narrows (c : Char) : Bool := isEmoji c && !(0x1F200 ≤ c.toNat && c.toNat ≤ 0x1F2FF)

/-- What follows a place, as far as it matters for the character before the place. -/
inductive Following where
  | other
  | emoji
  | tone
  /-- A joiner with an emoji behind it. -/
  | joined
  /-- The selector of emoji, with or without a joined emoji behind it. -/
  | selector (joined : Bool)
  /-- The selector of plain text. -/
  | plainSelector
  deriving DecidableEq, Repr

def measureAlone (c : Char) : Nat × Following :=
  if c = '\ufe0f' then (0, .selector false)
  else if c = '\ufe0e' then (0, .plainSelector)
  else if isTone c then (2, .tone)
  else if isEmoji c then (2, .emoji)
  else (charWidth c, .other)

def measure (c : Char) : Following → Nat × Following
  | .other => measureAlone c
  | .emoji => if c = '\u200d' then (0, .joined) else measureAlone c
  | .tone =>
    if takesTone c then (0, .emoji)
    else if c = '\u200d' then (0, .joined)
    else measureAlone c
  | .joined =>
    if c = '\ufe0f' then (0, .selector true)
    else if isTone c then (0, .tone)
    else if isEmoji c then (0, .emoji)
    else measureAlone c
  | .selector joined =>
    if takesSelector c then (if joined then 0 else 2, .emoji) else measureAlone c
  | .plainSelector => if narrows c then (1, .other) else measureAlone c

def measureLine : List Char → Nat × Following
  | [] => (0, .other)
  | c :: rest =>
    let (columns, following) := measureLine rest
    let (added, first) := measure c following
    (added + columns, first)

def width (line : List Char) : Nat := (measureLine line).1

end Tabular.Text
