import Tabular.Text.Blank
import Tabular.Text.Word

/-! Patterns over text, and the search for their first match.

A pattern says what it wants next and how it goes on. Choices are ordered: a search takes
the leftmost place where the pattern matches, and there the first choice that leads to a
match. What stands between `opens` and `closes` is captured.
-/

set_option autoImplicit false

namespace Tabular.Text

inductive Pattern where
  | found
  /-- One accepted character. -/
  | one (accepts : Char → Bool) (next : Pattern)
  /-- An accepted character if there is one, or else none. -/
  | perhaps (accepts : Char → Bool) (next : Pattern)
  /-- As many accepted characters as the rest allows. -/
  | most (accepts : Char → Bool) (next : Pattern)
  /-- As few accepted characters as the rest allows. -/
  | fewest (accepts : Char → Bool) (next : Pattern)
  | either (first second : Pattern)
  | opens (next : Pattern)
  | closes (next : Pattern)
  /-- A place with a word character on exactly one side. -/
  | wordEdge (next : Pattern)
  | textEnd (next : Pattern)

/-- A place in a text: the character before it, if any, and the characters after it. -/
structure Place where
  before : Option Char
  rest : List Char

namespace Place

def isWordEdge (place : Place) : Bool := place.before.any isWord != place.rest.head?.any isWord

end Place

/-- Goes on behind as many accepted characters as possible, then behind fewer. -/
def mostThen {α : Type} (accepts : Char → Bool) (next : Place → Option α) :
    Option Char → List Char → Option α
  | before, [] => next ⟨before, []⟩
  | before, c :: rest =>
    if accepts c then
      match mostThen accepts next (some c) rest with
      | some result => some result
      | none => next ⟨before, c :: rest⟩
    else next ⟨before, c :: rest⟩

/-- Goes on here if possible, and else behind one more accepted character. -/
def fewestThen {α : Type} (accepts : Char → Bool) (next : Place → Option α) :
    Option Char → List Char → Option α
  | before, [] => next ⟨before, []⟩
  | before, c :: rest =>
    match next ⟨before, c :: rest⟩ with
    | some result => some result
    | none => if accepts c then fewestThen accepts next (some c) rest else none

namespace Pattern

/-- The captures of the first match at a place; `opened` is the text from the last opening. -/
def matchAt : Pattern → (opened : List Char) → Place → Option (List (List Char))
  | found, _, _ => some []
  | one accepts next, opened, place =>
    match place.rest with
    | [] => none
    | c :: rest => if accepts c then next.matchAt opened ⟨some c, rest⟩ else none
  | perhaps accepts next, opened, place =>
    match place.rest with
    | [] => next.matchAt opened place
    | c :: rest =>
      if accepts c then
        match next.matchAt opened ⟨some c, rest⟩ with
        | some captures => some captures
        | none => next.matchAt opened place
      else next.matchAt opened place
  | most accepts next, opened, place => mostThen accepts (next.matchAt opened) place.before place.rest
  | fewest accepts next, opened, place =>
    fewestThen accepts (next.matchAt opened) place.before place.rest
  | either first second, opened, place =>
    match first.matchAt opened place with
    | some captures => some captures
    | none => second.matchAt opened place
  | opens next, _, place => next.matchAt place.rest place
  | closes next, opened, place =>
    (next.matchAt [] place).map fun captures =>
      opened.take (opened.length - place.rest.length) :: captures
  | wordEdge next, opened, place =>
    if place.isWordEdge then next.matchAt opened place else none
  | textEnd next, opened, place => if place.rest.isEmpty then next.matchAt opened place else none

def findFrom (pattern : Pattern) : Option Char → List Char → Option (List (List Char))
  | before, [] => pattern.matchAt [] ⟨before, []⟩
  | before, c :: rest =>
    match pattern.matchAt [] ⟨before, c :: rest⟩ with
    | some captures => some captures
    | none => pattern.findFrom (some c) rest

def find (pattern : Pattern) (text : List Char) : Option (List (List Char)) :=
  pattern.findFrom none text

def some1 (accepts : Char → Bool) (next : Pattern) : Pattern := one accepts (most accepts next)

/-- Letters agree up to case; the long s and the kelvin sign have the cases of s and k. -/
def sameLetter (letter c : Char) : Bool :=
  letter.toLower == c.toLower || (c == 'ſ' && letter.toLower == 's')
    || (c == '\u212A' && letter.toLower == 'k')

def word (letters : List Char) (next : Pattern) : Pattern :=
  letters.foldr (fun letter next => one (sameLetter letter) next) next

end Pattern

end Tabular.Text
