import Tabular.Proofs.Text.Pattern
import Tabular.Text.Reader

/-! What readers take off a text whose shape is known.

A reader that succeeds gives a value and leaves the rest of the text. The bound that a result
carries says nothing more about it, so results are compared by value and rest alone.
-/

set_option autoImplicit false

namespace Tabular.Text

universe u v w

variable {ε : Type} {α : Type u} {β : Type v}

/-- On this input a reader gives the value and leaves the rest. -/
def Reads (reader : Reader ε α) (input : List Char) (value : α) (rest : List Char) : Prop :=
  ∃ within, reader input = .ok ⟨value, rest, within⟩

namespace Reads

theorem done (value : α) (input : List Char) :
    Reads (Reader.done value : Reader ε α) input value input :=
  ⟨Nat.le_refl _, rfl⟩

theorem andThen {first : Reader ε α} {next : α → Reader ε β} {input middle rest : List Char}
    {value : α} {result : β} (before : Reads first input value middle)
    (after : Reads (next value) middle result rest) :
    Reads (first.andThen next) input result rest := by
  obtain ⟨within, found⟩ := before
  obtain ⟨further, read⟩ := after
  refine ⟨Nat.le_trans further within, ?_⟩
  simp only [Reader.andThen, found, behind, read]

theorem map {reader : Reader ε α} {f : α → β} {input rest : List Char} {value : α}
    (read : Reads reader input value rest) : Reads (reader.map f) input (f value) rest :=
  read.andThen (done (f value) rest)

theorem afterOne {reader inner : Reader ε α} {c : Char} {input rest : List Char} {value : α}
    (step : reader (c :: input) = Reader.afterOne (inner input))
    (read : Reads inner input value rest) : Reads reader (c :: input) value rest := by
  obtain ⟨within, found⟩ := read
  refine ⟨Nat.le_succ_of_le within, ?_⟩
  rw [step, found]
  rfl

theorem congr {reader other : Reader ε α} {input rest : List Char} {value : α}
    (same : reader input = other input) (read : Reads other input value rest) :
    Reads reader input value rest := by
  obtain ⟨within, found⟩ := read
  exact ⟨within, same.trans found⟩

end Reads

/-! ## What a reader has done that succeeded -/

section Inversion

variable {input rest : List Char}

theorem reads_behind_iff {before : List Char} {within : before.length ≤ input.length}
    {read : Except ε (Parsed α before)} {value : α} :
    (∃ bound, behind within read = .ok (⟨value, rest, bound⟩ : Parsed α input)) ↔
      ∃ bound, read = .ok ⟨value, rest, bound⟩ := by
  cases read with
  | error fault => simp [behind]
  | ok parsed =>
    obtain ⟨found, left, bound⟩ := parsed
    simp only [behind, Except.ok.injEq, Parsed.mk.injEq]
    constructor
    · rintro ⟨-, rfl, rfl⟩
      exact ⟨bound, rfl, rfl⟩
    · rintro ⟨-, rfl, rfl⟩
      exact ⟨Nat.le_trans bound within, rfl, rfl⟩

theorem reads_afterOne_iff {reader inner : Reader ε α} {c : Char} {value : α}
    (step : reader (c :: input) = Reader.afterOne (inner input)) :
    Reads reader (c :: input) value rest ↔ Reads inner input value rest := by
  rw [Reads, step]
  exact reads_behind_iff

theorem Reads.unique {reader : Reader ε α} {value other : α} {last : List Char}
    (first : Reads reader input value rest) (second : Reads reader input other last) :
    other = value ∧ last = rest := by
  obtain ⟨_, found⟩ := first
  obtain ⟨_, again⟩ := second
  rw [found] at again
  cases again
  exact ⟨rfl, rfl⟩

theorem reads_done_iff {value found : α} :
    Reads (Reader.done value : Reader ε α) input found rest ↔ found = value ∧ rest = input := by
  constructor
  · rintro ⟨_, equal⟩
    cases equal
    exact ⟨rfl, rfl⟩
  · rintro ⟨rfl, rfl⟩
    exact .done _ _

theorem not_reads_fail {fault : ε} {value : α} :
    ¬Reads (Reader.fail fault : Reader ε α) input value rest :=
  fun ⟨_, failed⟩ => nomatch failed

theorem reads_andThen_iff {first : Reader ε α} {next : α → Reader ε β} {result : β} :
    Reads (first.andThen next) input result rest ↔
      ∃ value middle, Reads first input value middle ∧ Reads (next value) middle result rest := by
  constructor
  · rintro ⟨within, read⟩
    unfold Reader.andThen at read
    split at read
    · rename_i parsed found
      obtain ⟨bound, after⟩ := reads_behind_iff.mp ⟨within, read⟩
      exact ⟨parsed.value, parsed.rest, ⟨parsed.within, found⟩, ⟨bound, after⟩⟩
    · cases read
  · rintro ⟨value, middle, before, after⟩
    exact before.andThen after

theorem reads_map_iff {reader : Reader ε α} {f : α → β} {result : β} :
    Reads (reader.map f) input result rest ↔
      ∃ value, Reads reader input value rest ∧ result = f value := by
  unfold Reader.map
  simp only [reads_andThen_iff, reads_done_iff]
  constructor
  · rintro ⟨value, _, read, rfl, rfl⟩
    exact ⟨value, read, rfl⟩
  · rintro ⟨value, read, rfl⟩
    exact ⟨value, rest, read, rfl, rfl⟩

theorem reads_andThen_map_iff {δ : Type w} {first : Reader ε α} {next : α → Reader ε β} {f : β → δ}
    {result : δ} :
    Reads (first.andThen fun value => (next value).map f) input result rest ↔
      ∃ last, Reads (first.andThen next) input last rest ∧ result = f last := by
  simp only [reads_andThen_iff, reads_map_iff]
  constructor
  · rintro ⟨value, middle, before, last, after, rfl⟩
    exact ⟨last, ⟨value, middle, before, after⟩, rfl⟩
  · rintro ⟨last, ⟨value, middle, before, after⟩, rfl⟩
    exact ⟨value, middle, before, last, after, rfl⟩

/-- Behind the same reader one reader still gives what `f` makes of what the other gives. -/
theorem reads_andThen_made_iff {γ : Type w} {first : Reader ε γ} {reader : Reader ε α}
    {whole : Reader ε β} {f : β → Option α}
    (made : ∀ input rest value, Reads reader input value rest ↔
      ∃ found, Reads whole input found rest ∧ f found = some value) {value : α} :
    Reads (first.andThen fun _ => reader) input value rest ↔
      ∃ found, Reads (first.andThen fun _ => whole) input found rest ∧ f found = some value := by
  simp only [reads_andThen_iff, made]
  constructor
  · rintro ⟨mark, middle, before, found, after, makes⟩
    exact ⟨found, ⟨mark, middle, before, after⟩, makes⟩
  · rintro ⟨found, ⟨mark, middle, before, after⟩, makes⟩
    exact ⟨mark, middle, before, found, after, makes⟩

end Inversion

section Runs

variable {accepts : Char → Bool} {run rest : List Char}

theorem takeWhile_run (accepted : ∀ c ∈ run, accepts c = true) (stops : Stops accepts rest) :
    (run ++ rest).takeWhile accepts = run := by
  rw [List.takeWhile_append_of_pos accepted]
  cases rest with
  | nil => simp
  | cons c rest => simp [stops.head]

theorem dropWhile_run (accepted : ∀ c ∈ run, accepts c = true) (stops : Stops accepts rest) :
    (run ++ rest).dropWhile accepts = rest := by
  rw [List.dropWhile_append_of_pos accepted]
  cases rest with
  | nil => simp
  | cons c rest => simp [stops.head]

theorem exists_run (accepts : Char → Bool) (text : List Char) :
    ∃ run rest, text = run ++ rest ∧ (∀ c ∈ run, accepts c = true) ∧ Stops accepts rest := by
  refine ⟨text.takeWhile accepts, text.dropWhile accepts,
    List.takeWhile_append_dropWhile.symm, List.all_eq_true.mp List.all_takeWhile, ?_⟩
  intro c member
  have refused := List.head?_dropWhile_not accepts text
  rw [member] at refused
  simpa using refused

end Runs

end Tabular.Text
