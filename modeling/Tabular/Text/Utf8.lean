/-! Text as bytes: UTF-8.

A lead byte demands continuation bytes, each from a range. Decoding is strict and reports
how many bytes came before the first one that fits nowhere, or it is lenient and puts a
replacement character where bytes do not fit.
-/

set_option autoImplicit false

namespace Tabular.Text

/-- The ranges of the bytes that have to follow a lead byte, if it is one. -/
def demanded (lead : UInt8) : Option (List (UInt8 × UInt8)) :=
  if lead < 0x80 then some []
  else if lead < 0xC2 then none
  else if lead < 0xE0 then some [(0x80, 0xBF)]
  else if lead = 0xE0 then some [(0xA0, 0xBF), (0x80, 0xBF)]
  else if lead = 0xED then some [(0x80, 0x9F), (0x80, 0xBF)]
  else if lead < 0xF0 then some [(0x80, 0xBF), (0x80, 0xBF)]
  else if lead = 0xF0 then some [(0x90, 0xBF), (0x80, 0xBF), (0x80, 0xBF)]
  else if lead < 0xF4 then some [(0x80, 0xBF), (0x80, 0xBF), (0x80, 0xBF)]
  else if lead = 0xF4 then some [(0x80, 0x8F), (0x80, 0xBF), (0x80, 0xBF)]
  else none

def meeting : List (UInt8 × UInt8) → List UInt8 → List UInt8
  | (low, high) :: ranges, byte :: bytes =>
    if low ≤ byte ∧ byte ≤ high then byte :: meeting ranges bytes else []
  | _, _ => []

def leadBits (lead : UInt8) (others : Nat) : Nat :=
  match others with
  | 0 => lead.toNat
  | 1 => lead.toNat % 32
  | 2 => lead.toNat % 16
  | _ => lead.toNat % 8

def charOf (lead : UInt8) (others : List UInt8) : Char :=
  Char.ofNat (others.foldl (fun code byte => code * 64 + byte.toNat % 64) (leadBits lead others.length))

/-- The first character of a lead byte and the bytes after it, or nothing, together with the
number of bytes after the lead that were used. -/
def firstChar (lead : UInt8) (bytes : List UInt8) : Option Char × Nat :=
  match demanded lead with
  | none => (none, 0)
  | some ranges =>
    let others := meeting ranges bytes
    (if others.length = ranges.length then some (charOf lead others) else none, others.length)

/-- Strict decoding after `before` bytes; bytes that are not text give the number of bytes
before them. -/
def decodeAfter (before : Nat) : List UInt8 → Except Nat (List Char)
  | [] => .ok []
  | lead :: bytes =>
    match firstChar lead bytes with
    | (none, _) => .error before
    | (some c, used) =>
      match decodeAfter (before + used + 1) (bytes.drop used) with
      | .ok chars => .ok (c :: chars)
      | .error position => .error position
  termination_by bytes => bytes.length
  decreasing_by simp only [List.length_drop, List.length_cons]; omega

def decodeBytes (bytes : List UInt8) : Except Nat String :=
  match decodeAfter 0 bytes with
  | .ok chars => .ok (String.ofList chars)
  | .error position => .error position

def decodeLoosely : List UInt8 → List Char
  | [] => []
  | lead :: bytes =>
    let (found, used) := firstChar lead bytes
    found.getD '\ufffd' :: decodeLoosely (bytes.drop used)
  termination_by bytes => bytes.length
  decreasing_by simp only [List.length_drop, List.length_cons]; omega

def encodeBytes (text : String) : List UInt8 := text.toUTF8.data.toList

def dropMark : List UInt8 → List UInt8
  | 0xEF :: 0xBB :: 0xBF :: bytes => bytes
  | bytes => bytes

end Tabular.Text
