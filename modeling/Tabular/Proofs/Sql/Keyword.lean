import Tabular.Proofs.Text.CharClass
import Tabular.Proofs.Text.Mention
import Tabular.Query.Aggregation

/-! The words that the clauses of a statement are found by.

None of them stands inside another one, or in the other fixed words of a statement, and the
marks and digits between the words keep them apart.
-/

set_option autoImplicit false

namespace Tabular.Sql

open Text

/-- The words that clauses are found by, and those that end a WHERE clause. -/
inductive Keyword where
  | select
  | source
  | condition
  | grouping
  | ordering
  | limit
  deriving DecidableEq

def Keyword.letters : Keyword → List Char
  | .select => "SELECT".toList
  | .source => "FROM".toList
  | .condition => "WHERE".toList
  | .grouping => "GROUP".toList
  | .ordering => "ORDER".toList
  | .limit => "LIMIT".toList

def keywords : List Keyword := [.select, .source, .condition, .grouping, .ordering, .limit]

theorem mem_keywords (keyword : Keyword) : keyword ∈ keywords := by
  cases keyword <;> decide

def KeywordFree (text : List Char) : Prop :=
  ∀ keyword ∈ keywords, mentions keyword.letters text = false

instance (text : List Char) : Decidable (KeywordFree text) :=
  inferInstanceAs (Decidable (∀ keyword ∈ keywords, mentions keyword.letters text = false))

theorem KeywordFree.mentions_eq_false {text : List Char} (free : KeywordFree text)
    (keyword : Keyword) : mentions keyword.letters text = false :=
  free keyword (mem_keywords keyword)

theorem letters_select : Keyword.select.letters = "SELECT".toList := by decide

theorem letters_source : Keyword.source.letters = "FROM".toList := by decide

theorem letters_condition : Keyword.condition.letters = "WHERE".toList := by decide

theorem letters_grouping : Keyword.grouping.letters = "GROUP".toList := by decide

theorem letters_ordering : Keyword.ordering.letters = "ORDER".toList := by decide

theorem letters_limit : Keyword.limit.letters = "LIMIT".toList := by decide

def marks : List Char :=
  [' ', ',', '(', ')', '\'', '"', '=', '<', '>', '0', '1', '2', '3', '4', '5', '6', '7', '8', '9']

variable (keyword : Keyword)

theorem letters_ne_nil : keyword.letters ≠ [] := by
  cases keyword <;> decide

theorem separates_of_mark {mark : Char} (isMark : mark ∈ marks) :
    Separates mark keyword.letters := by
  have all : ∀ mark ∈ marks, Separates mark keyword.letters := by
    cases keyword <;> decide
  exact all mark isMark

theorem mem_marks_of_isAsciiDigit {c : Char} (digit : isAsciiDigit c = true) : c ∈ marks := by
  have all : ∀ code < 58, 48 ≤ code → Char.ofNat code ∈ marks := by decide
  obtain ⟨low, high⟩ := code_of_isAsciiDigit digit
  have here := all c.toNat (Nat.lt_succ_of_le high) low
  rwa [Char.ofNat_toNat] at here

theorem mentions_digits {digits : List Char} (accepted : ∀ c ∈ digits, isAsciiDigit c = true) :
    mentions keyword.letters digits = false :=
  mentions_of_separates (letters_ne_nil keyword) fun c member =>
    separates_of_mark keyword (mem_marks_of_isAsciiDigit (accepted c member))

theorem mentions_other_keyword {other : Keyword} (different : other ≠ keyword) :
    mentions keyword.letters other.letters = false := by
  have all : ∀ other ∈ keywords, other ≠ keyword →
      mentions keyword.letters other.letters = false := by
    cases keyword <;> decide
  exact all other (mem_keywords other) different

theorem mentions_filler {filler : List Char} (isFiller : filler ∈ ["BY".toList, "AS".toList]) :
    mentions keyword.letters filler = false := by
  have all : ∀ filler ∈ ["BY".toList, "AS".toList], mentions keyword.letters filler = false := by
    cases keyword <;> decide
  exact all filler isFiller

theorem mentions_function (function : Aggregation) :
    mentions keyword.letters function.name.toList = false := by
  cases keyword <;> cases function <;> decide

attribute [irreducible] Keyword.letters

theorem mentions_mark_cons {mark : Char} (isMark : mark ∈ marks) (text rest : List Char) :
    mentions keyword.letters (text ++ mark :: rest) =
      (mentions keyword.letters text || mentions keyword.letters rest) :=
  mentions_append_cons (letters_ne_nil keyword) (separates_of_mark keyword isMark) text rest

theorem mentions_cons_mark {mark : Char} (isMark : mark ∈ marks) (rest : List Char) :
    mentions keyword.letters (mark :: rest) = mentions keyword.letters rest :=
  mentions_cons_separator (letters_ne_nil keyword) (separates_of_mark keyword isMark) rest

theorem mentions_concat_mark {mark : Char} (isMark : mark ∈ marks) (text : List Char) :
    mentions keyword.letters (text ++ [mark]) = mentions keyword.letters text :=
  mentions_append_separator (letters_ne_nil keyword) (separates_of_mark keyword isMark) text

end Tabular.Sql
