import Tabular.Command.Run
import Tabular.Proofs.Sql.Hanging
import Tabular.Proofs.Text.Split
import Tabular.Proofs.Text.Utf8

/-! The shell and the single statement.

A line of the shell is answered like the statement that the line is without the blanks around it,
and a single statement is run as it is given. So the two answer alike, whatever the catalog, the
cap and the format, exactly when the rows of the statement do not hang on the blanks at its end.
-/

set_option autoImplicit false

namespace Tabular.Command

open Text
open Sql (HangsOnBlanks)

namespace Shell

structure Stays (line : String) : Prop where
  single : '\n' ∉ line.toList
  goesOn : trim line ∉ quitWords

def typed (lines : List String) : List UInt8 :=
  lines.flatMap fun line => encodeBytes line ++ [0x0A]

def answers (service : Service) (format : OutputFormat) (lines : List String) : String :=
  String.join (lines.map fun line => respond service format (trim line))

section Lines

theorem linesOf_line {line : List UInt8} (single : 0x0A ∉ line) (later : List UInt8) :
    linesOf (line ++ 0x0A :: later) = line :: linesOf later := by
  have parts : splitAt 0x0A (line ++ 0x0A :: later) = line :: splitAt 0x0A later := by
    rw [splitAt_eq_splitOn, splitAt_eq_splitOn, List.splitOn_append_cons_self_of_not_mem single]
  rw [linesOf, linesOf, parts]
  cases rest : splitAt 0x0A later with
  | nil =>
    rw [splitAt_eq_splitOn] at rest
    exact absurd rest (List.splitOn_ne_nil _ later)
  | cons part parts =>
    simp only [List.getLast?_cons_cons, List.dropLast_cons_cons]
    split <;> rfl

theorem linesOf_typed {lines : List String} (stay : ∀ line ∈ lines, Stays line)
    (later : List UInt8) :
    linesOf (typed lines ++ later) = lines.map encodeBytes ++ linesOf later := by
  induction lines with
  | nil => rfl
  | cons line lines ih =>
    obtain ⟨first, others⟩ := List.forall_mem_cons.mp stay
    have split : typed (line :: lines) ++ later =
        encodeBytes line ++ 0x0A :: (typed lines ++ later) := by
      simp only [typed, List.flatMap_cons, List.append_assoc, List.cons_append, List.nil_append]
    rw [split, linesOf_line (lineFeed_not_mem_encodeBytes first.single), ih others, List.map_cons,
      List.cons_append]

end Lines

section Run

variable {service : Service} {format : OutputFormat}

theorem answerLines_cons {line : String} (stays : Stays line) (lines : List (List UInt8)) :
    answerLines service format (encodeBytes line :: lines) =
      ⟨(answerLines service format lines).code,
        respond service format (trim line) ++ (answerLines service format lines).output⟩ := by
  rw [answerLines, decodeBytes_encodeBytes]
  simp only [stays.goesOn, if_false]

theorem answerLines_append {lines : List String} (stay : ∀ line ∈ lines, Stays line)
    (later : List (List UInt8)) :
    answerLines service format (lines.map encodeBytes ++ later) =
      ⟨(answerLines service format later).code,
        answers service format lines ++ (answerLines service format later).output⟩ := by
  induction lines with
  | nil => simp [answers]
  | cons line lines ih =>
    obtain ⟨first, others⟩ := List.forall_mem_cons.mp stay
    rw [List.map_cons, List.cons_append, answerLines_cons first, ih others]
    simp only [answers, List.map_cons, String.join_cons, String.append_assoc]

theorem run_typed {lines : List String} (stay : ∀ line ∈ lines, Stays line) (later : List UInt8) :
    run service format (typed lines ++ later) =
      ⟨(answerLines service format (linesOf later)).code,
        banner ++ (answers service format lines ++
          (answerLines service format (linesOf later)).output)⟩ := by
  rw [run, linesOf_typed stay, answerLines_append stay]

/-- Between the answers before it and behind it, a line is answered with a text of its own. -/
theorem run_eq_iff {earlier : List String} {line text : String}
    (stay : ∀ other ∈ earlier, Stays other) (stays : Stays line) (later : List UInt8) :
    run service format (typed (earlier ++ [line]) ++ later) =
        ⟨(answerLines service format (linesOf later)).code,
          banner ++ (answers service format earlier ++ text ++
            (answerLines service format (linesOf later)).output)⟩ ↔
      respond service format (trim line) = text := by
  have all : ∀ other ∈ earlier ++ [line], Stays other := by
    intro other member
    rcases List.mem_append.mp member with before | here
    · exact stay other before
    · exact List.mem_singleton.mp here ▸ stays
  rw [run_typed all, Outcome.mk.injEq, String.append_right_inj, String.append_left_inj]
  simp [answers, String.append_right_inj]

theorem respond_statement {line : String} (filled : line ≠ "")
    (plain : line.toList.head? ≠ some '\\') :
    respond service format line = showStatement service format line := by
  have other (commands : List String) (marked : ∀ command ∈ commands,
      command.toList.head? = some '\\') : line ∉ commands :=
    fun member => plain (marked line member)
  have nonempty : ¬line.isEmpty = true := fun empty => filled (String.isEmpty_iff.mp empty)
  rw [respond, if_neg nonempty, if_neg (other _ (by decide)), if_neg (other _ (by decide)),
    if_neg plain]

end Run

end Shell

section Statement

variable {statement : String}

theorem showStatement_trim (steady : ¬HangsOnBlanks statement) (service : Service)
    (format : OutputFormat) :
    showStatement service format (trim statement) = showStatement service format statement := by
  have rows := Sql.runOn_trim steady service.catalog.get?
  unfold showStatement Service.handle Request.run Request.runOn
  simp only [rows]

/-- A cap that shows no row still tells in a table how many there are. -/
theorem exists_showStatement_ne (hangs : HangsOnBlanks statement) :
    ∃ service : Service,
      showStatement service .table (trim statement) ≠ showStatement service .table statement := by
  obtain ⟨catalog, row, apart⟩ := Sql.run_trim_apart hangs
  have shown (statement : String) :
      showStatement ⟨catalog, some 0⟩ .table statement =
        showAnswer .table (.ofRows (some 0) (Sql.run catalog statement)) := rfl
  have one : Answer.ofRows (some 0) [row] = ⟨[], 0, 1, true⟩ := rfl
  have differ : showAnswer .table ⟨[], 0, 1, true⟩ ≠ showAnswer .table (.ofRows (some 0) []) := by
    decide
  refine ⟨⟨catalog, some 0⟩, ?_⟩
  rw [shown, shown]
  rcases apart with ⟨spaced, tight⟩ | ⟨spaced, tight⟩
  · rw [spaced, tight, one]
    exact differ
  · rw [spaced, tight, one]
    exact differ.symm

theorem run_trim_eq_iff (statement : String) :
    (∀ catalog : Catalog, Sql.run catalog statement = Sql.run catalog (trim statement)) ↔
      ¬HangsOnBlanks statement := by
  constructor
  · intro same hangs
    obtain ⟨catalog, row, apart⟩ := Sql.run_trim_apart hangs
    rw [same catalog] at apart
    rcases apart with ⟨empty, single⟩ | ⟨single, empty⟩
    · rw [empty] at single
      cases single
    · rw [empty] at single
      cases single
  · exact fun steady catalog => Sql.runOn_trim steady catalog.get?

end Statement

namespace Shell

/-- Whatever is typed before a statement and after it, in every catalog, cap and format, the shell
prints for it what the single statement is answered with. -/
def AnsweredAlike (statement : String) : Prop :=
  ∀ (service : Service) (format : OutputFormat) (earlier : List String)
    (later input : List UInt8), (∀ line ∈ earlier, Stays line) →
    let answer : Id Outcome := perform service format (pure input) (.sql statement)
    let rest := answerLines service format (linesOf later)
    run service format (typed (earlier ++ [statement]) ++ later) =
      ⟨rest.code, banner ++ (answers service format earlier ++ answer.run.output ++ rest.output)⟩

/-- A statement is answered alike, and its rows are those of the trimmed statement, exactly when
they do not hang on the blanks at its end. -/
theorem answered_alike_iff (statement : String) (stays : Stays statement)
    (filled : trim statement ≠ "") (plain : (trim statement).toList.head? ≠ some '\\') :
    (AnsweredAlike statement ↔ ¬HangsOnBlanks statement) ∧
    ((∀ catalog : Catalog, Sql.run catalog statement = Sql.run catalog (trim statement)) ↔
      ¬HangsOnBlanks statement) := by
  refine ⟨⟨?_, ?_⟩, run_trim_eq_iff statement⟩
  · intro alike hangs
    obtain ⟨service, differ⟩ := exists_showStatement_ne hangs
    have same := (run_eq_iff (List.forall_mem_nil _) stays []).mp
      (alike service .table [] [] [] (List.forall_mem_nil _))
    exact differ ((respond_statement filled plain).symm.trans same)
  · intro steady service format earlier later input stay
    exact (run_eq_iff stay stays later).mpr
      ((respond_statement filled plain).trans (showStatement_trim steady service format))

set_option maxRecDepth 4000 in
/-- Blanks before a statement and behind its literals change nothing. -/
theorem answered_alike_surrounded :
    let statement := "  SELECT * FROM sales WHERE region = ' North '  "
    Stays statement ∧ trim statement ≠ "" ∧ (trim statement).toList.head? ≠ some '\\' ∧
      AnsweredAlike statement ∧
      ∀ catalog : Catalog, Sql.run catalog statement = Sql.run catalog (trim statement) := by
  intro statement
  have stays : Stays statement := ⟨by decide, by decide⟩
  have filled : trim statement ≠ "" := by decide
  have plain : (trim statement).toList.head? ≠ some '\\' := by decide
  have steady : ¬HangsOnBlanks statement := by decide
  obtain ⟨answered, rows⟩ := answered_alike_iff statement stays filled plain
  exact ⟨stays, filled, plain, answered.mpr steady, rows.mpr steady⟩

set_option maxRecDepth 4000 in
/-- A comparison without a value finds nothing if a blank stands behind it, and is none in the
shell, which shows every row. -/
theorem answered_apart_unfinished :
    let sales : Dataset := ⟨"sales", [], [Row.ofList [("region", .text "North")]]⟩
    let catalog := Catalog.empty.insert sales
    let statement := "SELECT * FROM sales WHERE region = "
    Sql.run catalog statement = [] ∧ Sql.run catalog (trim statement) = sales.rows ∧
    ¬ ∀ statement : String, Stays statement → trim statement ≠ "" →
      (trim statement).toList.head? ≠ some '\\' → AnsweredAlike statement := by
  intro sales catalog statement
  refine ⟨by decide, by decide, fun alike => ?_⟩
  have stays : Stays statement := ⟨by decide, by decide⟩
  have same := (run_eq_iff (List.forall_mem_nil _) stays []).mp
    (alike statement stays (by decide) (by decide) ⟨catalog, none⟩ .table [] [] []
      (List.forall_mem_nil _))
  revert same
  decide

end Shell

end Tabular.Command
