import Mathlib.Tactic.SplitIfs
import Tabular.Proofs.Text.Lowering

/-! Text in lower case.

A character in lower case is one that lower-casing leaves alone. Whatever a character is lowered
to is in lower case, so lower-casing a text for a second time changes nothing. That rests on the
table of runs: no run moves a code point to where another run, or the run itself, moves it on.
-/

set_option autoImplicit false

namespace Tabular.Text

/-! ## Runs of code points -/

section Runs

def CaseRun.target (run : CaseRun) (code : Nat) : Nat := ((code : Int) + run.shift).toNat

structure CaseRun.Moves (run : CaseRun) (code : Nat) : Prop where
  low : run.first ≤ code
  high : code ≤ run.last
  step : (code - run.first) % run.step = 0

/-- Whether runs leave alone what stands between two code points, at even distances from the first
of them if `even` is set. Like lower-casing, it looks no further than the first run beyond. -/
def leavesAlone (even : Bool) (low high : Nat) : List CaseRun → Bool
  | [] => true
  | run :: runs =>
    if high < run.first then true
    else (Nat.blt run.last low || (even && run.step == 2 && (low + run.first) % 2 == 1)) &&
      leavesAlone even low high runs

def CaseRun.settles (run : CaseRun) : Bool :=
  leavesAlone (run.step == 2 || run.first == run.last) (run.target run.first)
    (run.target run.last) lowerRuns

variable {runs : List CaseRun} {run : CaseRun} {code : Nat}

theorem lowerCode_cases (runs : List CaseRun) (code : Nat) :
    lowerCode runs code = code ∨
      ∃ run ∈ runs, run.Moves code ∧ lowerCode runs code = run.target code := by
  induction runs with
  | nil => exact .inl rfl
  | cons run runs ih =>
    rw [lowerCode]
    split_ifs with below within step
    · exact .inl rfl
    · exact .inr ⟨run, List.mem_cons_self, ⟨Nat.le_of_not_lt below, within, step⟩, rfl⟩
    · exact .inl rfl
    · exact ih.imp id fun ⟨other, member, moved⟩ => ⟨other, List.mem_cons_of_mem run member, moved⟩

theorem lowerCode_of_leavesAlone {even : Bool} {low high : Nat}
    (alone : leavesAlone even low high runs = true) (above : low ≤ code) (below : code ≤ high)
    (distance : even = true → (code - low) % 2 = 0) : lowerCode runs code = code := by
  induction runs with
  | nil => rfl
  | cons run runs ih =>
    rw [lowerCode]
    rw [leavesAlone] at alone
    split_ifs at alone with beyond
    · rw [if_pos (Nat.lt_of_le_of_lt below beyond)]
    · simp only [Bool.and_eq_true, Bool.or_eq_true, Nat.blt_eq, beq_iff_eq] at alone
      obtain ⟨behind | ⟨⟨isEven, two⟩, odd⟩, later⟩ := alone
      · rw [ih later]
        split_ifs <;> omega
      · -- The run moves every second code point, and this one stands between two of them.
        have between : (code - run.first) % 2 = 1 ∨ code < run.first := by
          have := distance isEven
          omega
        rw [two, ih later]
        split_ifs <;> omega

theorem lowerCode_target (positive : 0 ≤ run.first + run.shift) (settles : run.settles = true)
    (moves : run.Moves code) : lowerCode lowerRuns (run.target code) = run.target code := by
  obtain ⟨low, high, step⟩ := moves
  refine lowerCode_of_leavesAlone settles ?_ ?_ fun even => ?_
  · simp only [CaseRun.target]
    omega
  · simp only [CaseRun.target]
    omega
  · simp only [Bool.or_eq_true, beq_iff_eq] at even
    simp only [CaseRun.target]
    rcases even with two | single
    · rw [two] at step
      omega
    · omega

-- Going through all runs goes deeper than the default bound allows.
set_option maxRecDepth 20000 in
theorem lowerRuns_positive : ∀ run ∈ lowerRuns, 0 ≤ run.first + run.shift := by decide

set_option maxRecDepth 20000 in
theorem lowerRuns_settle : ∀ run ∈ lowerRuns, run.settles = true := by decide

set_option maxRecDepth 20000 in
/-- Nothing is lowered to the dotted capital I. -/
theorem lowerRuns_not_dotted :
    ∀ run ∈ lowerRuns, run.target run.last < 'İ'.toNat ∨ 'İ'.toNat < run.target run.first := by
  decide

theorem lowerCode_lowerCode (code : Nat) :
    lowerCode lowerRuns (lowerCode lowerRuns code) = lowerCode lowerRuns code := by
  rcases lowerCode_cases lowerRuns code with same | ⟨run, member, moves, moved⟩
  · rw [same, same]
  · rw [moved]
    exact lowerCode_target (lowerRuns_positive run member) (lowerRuns_settle run member) moves

theorem lowerCode_ne_dotted (other : code ≠ 'İ'.toNat) : lowerCode lowerRuns code ≠ 'İ'.toNat := by
  rcases lowerCode_cases lowerRuns code with same | ⟨run, member, ⟨low, high, -⟩, moved⟩
  · rwa [same]
  · have positive := lowerRuns_positive run member
    have apart := lowerRuns_not_dotted run member
    rw [moved]
    simp only [CaseRun.target] at apart ⊢
    omega

end Runs

/-! ## Characters -/

section Characters

def IsLower (c : Char) : Prop := lowerChar c = [c]

instance (c : Char) : Decidable (IsLower c) := inferInstanceAs (Decidable (_ = _))

theorem isLower_of_mem_lowerChar {c small : Char} (member : small ∈ lowerChar c) :
    IsLower small := by
  unfold lowerChar at member
  split at member
  · have both : ∀ small ∈ ['i', '\u0307'], IsLower small :=
      List.forall_mem_cons.mpr ⟨by decide, List.forall_mem_singleton.mpr (by decide)⟩
    exact both small member
  · rename_i other
    rw [List.mem_singleton.mp member]
    have again := lowerCode_lowerCode c.toNat
    have undotted : lowerCode lowerRuns c.toNat ≠ 'İ'.toNat :=
      lowerCode_ne_dotted fun same => other (Char.toNat_inj.mp same)
    generalize lowerCode lowerRuns c.toNat = code at again undotted
    by_cases valid : code.isValidChar
    · have back : (Char.ofNat code).toNat = code := by
        rw [Char.ofNat, dif_pos valid]
        rfl
      have notDotted : Char.ofNat code ≠ 'İ' := fun same => undotted (same ▸ back.symm)
      rw [IsLower, lowerChar, if_neg notDotted, back, again]
    · -- A code point of no character stands for the null character.
      have null : Char.ofNat code = '\x00' := by
        rw [Char.ofNat, dif_neg valid]
        rfl
      rw [null]
      decide

theorem not_isLower_sigma : ¬IsLower 'Σ' := by decide

theorem exists_lowerChar_cons {capital : Char} (upper : ¬IsLower capital) :
    ∃ small others, lowerChar capital = small :: others ∧ capital ≠ small := by
  by_cases dotted : capital = 'İ'
  · subst dotted
    exact ⟨'i', ['\u0307'], rfl, by decide⟩
  · have single : lowerChar capital = [Char.ofNat (lowerCode lowerRuns capital.toNat)] :=
      if_neg dotted
    refine ⟨_, [], single, fun same => upper ?_⟩
    rw [IsLower, single, ← same]

theorem lowerChar_of_ascii {c : Char} (ascii : c.toNat < 128) : lowerChar c = [c.toLower] := by
  have all : ∀ code < 128, lowerChar (Char.ofNat code) = [(Char.ofNat code).toLower] := by decide
  have lowered := all c.toNat ascii
  rwa [Char.ofNat_toNat] at lowered

end Characters

/-! ## Texts -/

section Texts

variable {before chars : List Char} {c : Char}

theorem isLower_of_mem_lowerAfter {small : Char} (member : small ∈ lowerAfter before chars) :
    IsLower small := by
  induction chars generalizing before with
  | nil => cases member
  | cons c chars ih =>
    rw [lowerAfter] at member
    rcases List.mem_append.mp member with here | later
    · split_ifs at here
      · rw [List.mem_singleton.mp here]
        decide
      · rw [List.mem_singleton.mp here]
        decide
      · exact isLower_of_mem_lowerChar here
    · exact ih later

theorem lowerAfter_of_isLower (lower : ∀ c ∈ chars, IsLower c) :
    lowerAfter before chars = chars := by
  induction chars generalizing before with
  | nil => rfl
  | cons c chars ih =>
    obtain ⟨first, others⟩ := List.forall_mem_cons.mp lower
    have noSigma : c ≠ 'Σ' := fun same => not_isLower_sigma (same ▸ first)
    rw [lowerAfter, if_neg noSigma, ih others, first]
    rfl

/-- A text is in lower case when each of its characters is. -/
theorem lowerChars_eq_self_iff : lowerChars chars = chars ↔ ∀ c ∈ chars, IsLower c := by
  constructor
  · intro same c member
    rw [← same] at member
    exact isLower_of_mem_lowerAfter member
  · exact lowerAfter_of_isLower

theorem lowerChars_lowerChars (chars : List Char) :
    lowerChars (lowerChars chars) = lowerChars chars :=
  lowerChars_eq_self_iff.mpr fun _ member => isLower_of_mem_lowerAfter member

theorem head?_lowerChars (ascii : c.toNat < 128) :
    (lowerChars (c :: chars)).head? = some c.toLower := by
  have noSigma : c ≠ 'Σ' := by
    rintro rfl
    exact absurd ascii (by decide)
  rw [lowerChars, lowerAfter, if_neg noSigma, lowerChar_of_ascii ascii]
  rfl

theorem lower_lower (text : String) : lower (lower text) = lower text := by
  rw [lower, lower, String.toList_ofList, lowerChars_lowerChars]

end Texts

end Tabular.Text
