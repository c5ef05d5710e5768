import Mathlib.Data.List.TakeWhile
import Tabular.Text.Blank

/-! What trimming takes away, the blanks at either end, and what it leaves alone. -/

set_option autoImplicit false

namespace Tabular.Text

def Blank (text : List Char) : Prop := ∀ c ∈ text, isBlank c = true

theorem Blank.of_suffix {text left : List Char} (blank : Blank text) (suffix : left <:+ text) :
    Blank left :=
  fun c member => blank c (suffix.mem member)

theorem blank_takeWhile (chars : List Char) : Blank (chars.takeWhile isBlank) :=
  fun _ => List.mem_takeWhile_imp

theorem Blank.dropWhile_eq_nil {text : List Char} (blank : Blank text) :
    text.dropWhile isBlank = [] :=
  List.dropWhile_eq_nil_iff.mpr blank

theorem filter_dropWhile_isBlank (chars : List Char) :
    (chars.dropWhile isBlank).filter (fun c => !isBlank c) = chars.filter fun c => !isBlank c := by
  induction chars with
  | nil => rfl
  | cons c rest ih =>
    by_cases blank : isBlank c = true
    · rw [List.dropWhile_cons_of_pos blank, ih, List.filter_cons_of_neg (by simp [blank])]
    · rw [List.dropWhile_cons_of_neg blank]

theorem filter_trimChars (chars : List Char) :
    (trimChars chars).filter (fun c => !isBlank c) = chars.filter fun c => !isBlank c := by
  unfold trimChars
  rw [List.filter_reverse, filter_dropWhile_isBlank, List.filter_reverse, List.reverse_reverse,
    filter_dropWhile_isBlank]

theorem trimChars_of_unblank {chars : List Char} (unblank : ∀ c ∈ chars, isBlank c = false) :
    trimChars chars = chars := by
  have kept (chars : List Char) (unblank : ∀ c ∈ chars, isBlank c = false) :
      chars.dropWhile isBlank = chars := by
    cases chars with
    | nil => rfl
    | cons c rest => exact List.dropWhile_cons_of_neg (by simp [unblank c])
  have behind : ∀ c ∈ chars.reverse, isBlank c = false := by simpa using unblank
  rw [trimChars, kept chars unblank, kept chars.reverse behind, List.reverse_reverse]

theorem exists_trimChars (chars : List Char) :
    ∃ lead trail, chars = lead ++ trimChars chars ++ trail ∧ Blank lead ∧ Blank trail := by
  let unled := chars.dropWhile isBlank
  refine ⟨chars.takeWhile isBlank, (unled.reverse.takeWhile isBlank).reverse, ?_,
    blank_takeWhile chars, fun c member => blank_takeWhile _ c (List.mem_reverse.mp member)⟩
  have split : trimChars chars ++ (unled.reverse.takeWhile isBlank).reverse = unled := by
    rw [trimChars, ← List.reverse_append, List.takeWhile_append_dropWhile, List.reverse_reverse]
  rw [List.append_assoc, split, List.takeWhile_append_dropWhile]

theorem isBlank_getLast_trimChars (chars : List Char) :
    ∀ c ∈ (trimChars chars).getLast?, isBlank c = false := by
  intro c last
  rw [trimChars, List.getLast?_reverse] at last
  have first := List.head?_dropWhile_not isBlank (chars.dropWhile isBlank).reverse
  rw [Option.mem_def.mp last] at first
  exact first

theorem trimChars_append_blank {trail : List Char} (blank : Blank trail) (chars : List Char) :
    trimChars (chars ++ trail) = trimChars chars := by
  have behind (chars : List Char) :
      (chars ++ trail).reverse.dropWhile isBlank = chars.reverse.dropWhile isBlank := by
    have reversed : Blank trail.reverse := fun c member => blank c (List.mem_reverse.mp member)
    rw [List.reverse_append, List.dropWhile_append, reversed.dropWhile_eq_nil]
    rfl
  unfold trimChars
  rw [List.dropWhile_append]
  split
  · rename_i empty
    rw [List.isEmpty_iff.mp empty, blank.dropWhile_eq_nil]
  · rw [behind]

theorem trimChars_append_ne {c : Char} (unblank : isBlank c = false) (chars rest : List Char) :
    trimChars chars ≠ trimChars (chars ++ c :: rest) := by
  intro same
  have kept := congrArg (fun trimmed => (trimmed.filter fun c => !isBlank c).length) same
  simp only [filter_trimChars, List.filter_append, List.length_append, List.filter_cons, unblank,
    Bool.not_false, if_true, List.length_cons] at kept
  omega

end Tabular.Text
