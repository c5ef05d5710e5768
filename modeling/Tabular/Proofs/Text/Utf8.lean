import Mathlib.Data.List.Forall2
import Tabular.Text.Utf8

/-! Text read back from its bytes.

Each character is written as a lead byte and as many continuation bytes as the lead demands, each
within its range, so strict decoding takes the bytes of one character after those of another.
-/

set_option autoImplicit false

namespace Tabular.Text

section Demands

abbrev Meets (ranges : List (UInt8 × UInt8)) (bytes : List UInt8) : Prop :=
  List.Forall₂ (fun range byte => range.1 ≤ byte ∧ byte ≤ range.2) ranges bytes

theorem meeting_append {ranges : List (UInt8 × UInt8)} {bytes : List UInt8}
    (meets : Meets ranges bytes) (more : List UInt8) : meeting ranges (bytes ++ more) = bytes := by
  induction meets with
  | nil => cases more <;> rfl
  | cons within _ ih => rw [List.cons_append, meeting, if_pos within, ih]

theorem firstChar_append {lead : UInt8} {ranges : List (UInt8 × UInt8)} {others : List UInt8}
    (demand : demanded lead = some ranges) (meets : Meets ranges others) (more : List UInt8) :
    firstChar lead (others ++ more) = (some (charOf lead others), others.length) := by
  simp only [firstChar, demand, meeting_append meets, meets.length_eq, if_true]

variable {lead second : UInt8}

theorem demanded_of_lt (plain : lead.toNat < 0x80) : demanded lead = some [] := by
  simp only [demanded, UInt8.lt_iff_toNat_lt, UInt8.toNat_ofNat]
  rw [if_pos plain]

theorem demanded_one (low : 0xC2 ≤ lead.toNat) (high : lead.toNat < 0xE0) :
    demanded lead = some [(0x80, 0xBF)] := by
  simp only [demanded, UInt8.lt_iff_toNat_lt, UInt8.toNat_ofNat]
  rw [if_neg (by omega), if_neg (by omega), if_pos (by omega)]

/-- A lead byte of three demands a continuation byte behind one that makes the sequence neither
longer than it need be nor a surrogate. -/
theorem demanded_two (low : 0xE0 ≤ lead.toNat) (high : lead.toNat < 0xF0)
    (tail : 0x80 ≤ second.toNat ∧ second.toNat ≤ 0xBF)
    (long : lead.toNat = 0xE0 → 0xA0 ≤ second.toNat)
    (surrogate : lead.toNat = 0xED → second.toNat ≤ 0x9F) :
    ∃ range : UInt8 × UInt8, demanded lead = some [range, (0x80, 0xBF)] ∧
      range.1 ≤ second ∧ second ≤ range.2 := by
  simp only [demanded, UInt8.lt_iff_toNat_lt, UInt8.le_iff_toNat_le, ← UInt8.toNat_inj,
    UInt8.toNat_ofNat]
  rw [if_neg (by omega), if_neg (by omega), if_neg (by omega)]
  by_cases first : lead.toNat = 0xE0
  · have lower := long first
    refine ⟨(0xA0, 0xBF), if_pos first, ?_⟩
    simp only [UInt8.toNat_ofNat]
    omega
  · rw [if_neg first]
    by_cases last : lead.toNat = 0xED
    · have upper := surrogate last
      refine ⟨(0x80, 0x9F), if_pos last, ?_⟩
      simp only [UInt8.toNat_ofNat]
      omega
    · refine ⟨(0x80, 0xBF), (if_neg last).trans (if_pos (by omega)), ?_⟩
      simp only [UInt8.toNat_ofNat]
      omega

/-- A lead byte of four demands two continuation bytes behind one that makes the sequence neither
longer than it need be nor too great for a character. -/
theorem demanded_three (low : 0xF0 ≤ lead.toNat) (high : lead.toNat ≤ 0xF4)
    (tail : 0x80 ≤ second.toNat ∧ second.toNat ≤ 0xBF)
    (long : lead.toNat = 0xF0 → 0x90 ≤ second.toNat)
    (beyond : lead.toNat = 0xF4 → second.toNat ≤ 0x8F) :
    ∃ range : UInt8 × UInt8, demanded lead = some [range, (0x80, 0xBF), (0x80, 0xBF)] ∧
      range.1 ≤ second ∧ second ≤ range.2 := by
  simp only [demanded, UInt8.lt_iff_toNat_lt, UInt8.le_iff_toNat_le, ← UInt8.toNat_inj,
    UInt8.toNat_ofNat]
  rw [if_neg (by omega), if_neg (by omega), if_neg (by omega), if_neg (by omega),
    if_neg (by omega), if_neg (by omega)]
  by_cases first : lead.toNat = 0xF0
  · have lower := long first
    refine ⟨(0x90, 0xBF), if_pos first, ?_⟩
    simp only [UInt8.toNat_ofNat]
    omega
  · rw [if_neg first]
    by_cases last : lead.toNat = 0xF4
    · have upper := beyond last
      refine ⟨(0x80, 0x8F), (if_neg (by omega)).trans (if_pos last), ?_⟩
      simp only [UInt8.toNat_ofNat]
      omega
    · refine ⟨(0x80, 0xBF), if_pos (by omega), ?_⟩
      simp only [UInt8.toNat_ofNat]
      omega

end Demands

section Character

theorem utf8EncodeChar_eq (c : Char) :
    String.utf8EncodeChar c =
      if c.toNat ≤ 127 then [.ofNat c.toNat]
      else if c.toNat ≤ 2047 then
        [.ofNat (c.toNat / 64 % 32 + 192), .ofNat (c.toNat % 64 + 128)]
      else if c.toNat ≤ 65535 then
        [.ofNat (c.toNat / 4096 % 16 + 224), .ofNat (c.toNat / 64 % 64 + 128),
          .ofNat (c.toNat % 64 + 128)]
      else
        [.ofNat (c.toNat / 262144 % 8 + 240), .ofNat (c.toNat / 4096 % 64 + 128),
          .ofNat (c.toNat / 64 % 64 + 128), .ofNat (c.toNat % 64 + 128)] := rfl

theorem toNat_ofNat_of_lt {n : Nat} (small : n < 256) : (UInt8.ofNat n).toNat = n := by
  rw [UInt8.toNat_ofNat']
  exact Nat.mod_eq_of_lt small

theorem continuation (n : Nat) :
    (0x80 : UInt8) ≤ .ofNat (n % 64 + 128) ∧ UInt8.ofNat (n % 64 + 128) ≤ 0xBF := by
  rw [UInt8.le_iff_toNat_le, UInt8.le_iff_toNat_le, toNat_ofNat_of_lt (by omega)]
  simp only [UInt8.toNat_ofNat]
  omega

/-- Whatever follows them, these bytes are read as the character. -/
def ReadAs (c : Char) (lead : UInt8) (others : List UInt8) : Prop :=
  ∀ more, firstChar lead (others ++ more) = (some c, others.length)

variable {c : Char}

theorem readAs_of_code {lead : UInt8} {others : List UInt8} {ranges : List (UInt8 × UInt8)}
    (demand : demanded lead = some ranges) (meets : Meets ranges others)
    (code : others.foldl (fun code byte => code * 64 + byte.toNat % 64)
      (leadBits lead others.length) = c.toNat) : ReadAs c lead others := by
  intro more
  rw [firstChar_append demand meets, charOf, code, Char.ofNat_toNat]

theorem readAs_one (small : c.toNat ≤ 127) : ReadAs c (.ofNat c.toNat) [] := by
  have lead := toNat_ofNat_of_lt (by omega : c.toNat < 256)
  exact readAs_of_code (demanded_of_lt (by omega)) .nil lead

theorem readAs_two (low : 127 < c.toNat) (high : c.toNat ≤ 2047) :
    ReadAs c (.ofNat (c.toNat / 64 % 32 + 192)) [.ofNat (c.toNat % 64 + 128)] := by
  have lead := toNat_ofNat_of_lt (by omega : c.toNat / 64 % 32 + 192 < 256)
  have last := toNat_ofNat_of_lt (by omega : c.toNat % 64 + 128 < 256)
  refine readAs_of_code (demanded_one (by omega) (by omega)) (.cons (continuation _) .nil) ?_
  simp only [List.length_cons, List.length_nil, leadBits, List.foldl_cons, List.foldl_nil, lead,
    last]
  omega

theorem readAs_three (low : 2047 < c.toNat) (high : c.toNat ≤ 65535) :
    ReadAs c (.ofNat (c.toNat / 4096 % 16 + 224))
      [.ofNat (c.toNat / 64 % 64 + 128), .ofNat (c.toNat % 64 + 128)] := by
  have valid : c.toNat < 0xD800 ∨ 0xDFFF < c.toNat ∧ c.toNat < 0x110000 := c.valid
  have lead := toNat_ofNat_of_lt (by omega : c.toNat / 4096 % 16 + 224 < 256)
  have second := toNat_ofNat_of_lt (by omega : c.toNat / 64 % 64 + 128 < 256)
  have last := toNat_ofNat_of_lt (by omega : c.toNat % 64 + 128 < 256)
  have tail : 0x80 ≤ (UInt8.ofNat (c.toNat / 64 % 64 + 128)).toNat ∧
      (UInt8.ofNat (c.toNat / 64 % 64 + 128)).toNat ≤ 0xBF := by omega
  obtain ⟨range, demand, within⟩ := demanded_two
    (by omega : 0xE0 ≤ (UInt8.ofNat (c.toNat / 4096 % 16 + 224)).toNat) (by omega) tail
    (by omega) (by omega)
  refine readAs_of_code demand (.cons within (.cons (continuation _) .nil)) ?_
  simp only [List.length_cons, List.length_nil, leadBits, List.foldl_cons, List.foldl_nil, lead,
    second, last]
  omega

theorem readAs_four (low : 65535 < c.toNat) :
    ReadAs c (.ofNat (c.toNat / 262144 % 8 + 240))
      [.ofNat (c.toNat / 4096 % 64 + 128), .ofNat (c.toNat / 64 % 64 + 128),
        .ofNat (c.toNat % 64 + 128)] := by
  have valid : c.toNat < 0xD800 ∨ 0xDFFF < c.toNat ∧ c.toNat < 0x110000 := c.valid
  have lead := toNat_ofNat_of_lt (by omega : c.toNat / 262144 % 8 + 240 < 256)
  have second := toNat_ofNat_of_lt (by omega : c.toNat / 4096 % 64 + 128 < 256)
  have third := toNat_ofNat_of_lt (by omega : c.toNat / 64 % 64 + 128 < 256)
  have last := toNat_ofNat_of_lt (by omega : c.toNat % 64 + 128 < 256)
  have tail : 0x80 ≤ (UInt8.ofNat (c.toNat / 4096 % 64 + 128)).toNat ∧
      (UInt8.ofNat (c.toNat / 4096 % 64 + 128)).toNat ≤ 0xBF := by omega
  obtain ⟨range, demand, within⟩ := demanded_three
    (by omega : 0xF0 ≤ (UInt8.ofNat (c.toNat / 262144 % 8 + 240)).toNat) (by omega) tail
    (by omega) (by omega)
  refine readAs_of_code demand
    (.cons within (.cons (continuation _) (.cons (continuation _) .nil))) ?_
  simp only [List.length_cons, List.length_nil, leadBits, List.foldl_cons, List.foldl_nil, lead,
    second, third, last]
  omega

theorem exists_utf8EncodeChar (c : Char) :
    ∃ lead others, String.utf8EncodeChar c = lead :: others ∧ ReadAs c lead others := by
  rw [utf8EncodeChar_eq]
  by_cases one : c.toNat ≤ 127
  · exact ⟨_, _, if_pos one, readAs_one one⟩
  · rw [if_neg one]
    by_cases two : c.toNat ≤ 2047
    · exact ⟨_, _, if_pos two, readAs_two (by omega) two⟩
    · rw [if_neg two]
      by_cases three : c.toNat ≤ 65535
      · exact ⟨_, _, if_pos three, readAs_three (by omega) three⟩
      · exact ⟨_, _, if_neg three, readAs_four (by omega)⟩

theorem eq_lineFeed_of_mem (member : 0x0A ∈ String.utf8EncodeChar c) : c = '\n' := by
  have feed : (0x0A : UInt8).toNat = 10 := rfl
  have high {n : Nat} (low : 128 ≤ n) (small : n < 256) : (0x0A : UInt8) ≠ .ofNat n := by
    intro same
    rw [same, toNat_ofNat_of_lt small] at feed
    omega
  rw [utf8EncodeChar_eq] at member
  split at member
  · have code := congrArg UInt8.toNat (List.mem_singleton.mp member)
    rw [feed, toNat_ofNat_of_lt (by omega)] at code
    rewrite [← Char.ofNat_toNat c, ← code]
    rfl
  · -- Every byte of a longer sequence is 128 or more.
    split at member
    · simp only [List.mem_cons, List.not_mem_nil, or_false] at member
      rcases member with same | same <;> exact absurd same (high (by omega) (by omega))
    · split at member
      · simp only [List.mem_cons, List.not_mem_nil, or_false] at member
        rcases member with same | same | same <;> exact absurd same (high (by omega) (by omega))
      · simp only [List.mem_cons, List.not_mem_nil, or_false] at member
        rcases member with same | same | same | same <;>
          exact absurd same (high (by omega) (by omega))

end Character

section Text

theorem encodeBytes_eq (text : String) :
    encodeBytes text = text.toList.flatMap String.utf8EncodeChar := by
  have bytes : text.toUTF8 = (text.toList.flatMap String.utf8EncodeChar).toByteArray :=
    String.utf8Encode_toList.symm
  rw [encodeBytes, bytes, List.data_toByteArray]

theorem decodeAfter_flatMap (chars : List Char) (before : Nat) :
    decodeAfter before (chars.flatMap String.utf8EncodeChar) = .ok chars := by
  induction chars generalizing before with
  | nil => rw [List.flatMap_nil, decodeAfter]
  | cons c chars ih =>
    obtain ⟨lead, others, bytes, read⟩ := exists_utf8EncodeChar c
    rw [List.flatMap_cons, bytes, List.cons_append, decodeAfter, read]
    simp only [List.drop_left, ih]

theorem decodeBytes_encodeBytes (text : String) : decodeBytes (encodeBytes text) = .ok text := by
  rw [decodeBytes, encodeBytes_eq, decodeAfter_flatMap]
  simp only [String.ofList_toList]

theorem decodeLoosely_encodeBytes (text : String) :
    decodeLoosely (encodeBytes text) = text.toList := by
  rw [encodeBytes_eq]
  induction text.toList with
  | nil => rw [List.flatMap_nil, decodeLoosely]
  | cons c chars ih =>
    obtain ⟨lead, others, bytes, read⟩ := exists_utf8EncodeChar c
    rw [List.flatMap_cons, bytes, List.cons_append, decodeLoosely, read]
    simp only [Option.getD_some, List.drop_left, ih]

theorem lineFeed_not_mem_encodeBytes {text : String} (single : '\n' ∉ text.toList) :
    0x0A ∉ encodeBytes text := by
  rw [encodeBytes_eq]
  intro member
  obtain ⟨c, inText, inBytes⟩ := List.mem_flatMap.mp member
  exact single (eq_lineFeed_of_mem inBytes ▸ inText)

end Text

end Tabular.Text
