import Tabular.Proofs.Catalog.Lookup
import Tabular.Proofs.Sql.Clauses
import Tabular.Proofs.Text.Capture
import Tabular.Sql.Run

/-! Which tables a statement can name.

The name of a table in a statement goes up to the next blank or double quote, so between double
quotes too a name with a blank is cut. All other names, whatever words they mention, are read
whole, and the statement that selects everything gives the rows of their tables.
-/

set_option autoImplicit false

namespace Tabular.Sql

open Text
open Text.Pattern

/-- The statement for everything in the table of a name, which stands between double quotes. -/
def everythingChars (name : List Char) : List Char :=
  "SELECT *".toList ++ ' ' :: ("FROM".toList ++ ' ' :: '"' :: (name ++ ['"']))

theorem toList_everything (name : String) :
    ("SELECT * FROM \"" ++ name ++ "\"").toList = everythingChars name.toList := by
  have opening : "SELECT * FROM \"".toList =
      "SELECT *".toList ++ ' ' :: ("FROM".toList ++ [' ', '"']) := by decide
  have closing : "\"".toList = ['"'] := by decide
  unfold everythingChars
  rw [String.toList_append, String.toList_append, opening, closing]
  generalize "SELECT *".toList = opening
  generalize "FROM".toList = word
  simp

section Name

variable {name letters : List Char} {next : Pattern}

/-- A clause needs a blank behind its word, and neither the name nor what stands before it
offers the word with a blank. -/
theorem find_everything_eq_none (unblank : ∀ c ∈ name, isBlank c = false) (word : letters ≠ [])
    (separates : Separates ' ' letters) (unselected : mentions letters "SELECT *".toList = false)
    (unmentioned : mentions letters "FROM".toList = false) :
    (Pattern.word letters (some1 isBlank next)).find (everythingChars name) = none := by
  have quoted : ∀ c ∈ '"' :: (name ++ ['"']), isBlank c = false := by
    have quote : isBlank '"' = false := by decide
    simpa [quote, or_imp, forall_and] using unblank
  have needs : Needs isBlank (Pattern.word letters (some1 isBlank next)) :=
    Needs.word letters (.here (most isBlank next))
  unfold find everythingChars
  rw [findFrom_word_passes word separates unselected,
    findFrom_word_passes word separates unmentioned]
  exact findFrom_eq_none _ fun before left suffix =>
    matchAt_eq_none_of_needs needs [] before fun c member => quoted c (suffix.mem member)

theorem findSource_everything (nonempty : name ≠ []) (accepted : ∀ c ∈ name, isTableChar c = true) :
    findSource (everythingChars name) = some (String.ofList name) := by
  have unmentioned : mentions "FROM".toList "SELECT *".toList = false := by decide
  exact findSource_quoted unmentioned nonempty accepted

theorem clauses_everything (unblank : ∀ c ∈ name, isBlank c = false) :
    findLimit (everythingChars name) = none ∧ findCondition (everythingChars name) = none ∧
      findGroupBy (everythingChars name) = none := by
  have limit : limitPattern.find (everythingChars name) = none :=
    find_everything_eq_none unblank (by decide) (by decide) (by decide) (by decide)
  have condition : wherePattern.find (everythingChars name) = none :=
    find_everything_eq_none unblank (by decide) (by decide) (by decide) (by decide)
  have grouping : groupPattern.find (everythingChars name) = none :=
    find_everything_eq_none unblank (by decide) (by decide) (by decide) (by decide)
  simp only [findLimit, findCondition, findGroupBy, limit, condition, grouping, and_self]

end Name

theorem isTableChar_of_findSource {text : List Char} {table : String}
    (found : findSource text = some table) : ∀ c ∈ table.toList, isTableChar c = true := by
  have captures : Captures isTableChar sourcePattern :=
    Captures.word _ (((Captures.here _).perhaps _).some1 _)
  unfold findSource at found
  split at found
  · rename_i name matched
    obtain rfl := Option.some.inj found
    rw [String.toList_ofList]
    exact accepted_of_findFrom captures matched
  · cases found

theorem run_everything {id : String} (named : id ≠ "") (unquoted : '"' ∉ id.toList)
    (unblank : ∀ c ∈ id.toList, isBlank c = false) {catalog : Catalog} {dataset : Dataset}
    (resident : catalog.get? id = some dataset) :
    run catalog ("SELECT * FROM \"" ++ id ++ "\"") = dataset.rows := by
  have nonempty : id.toList ≠ [] := fun empty => named (String.toList_eq_nil_iff.mp empty)
  have accepted := isTableChar_of_unquoted unquoted unblank
  have source := findSource_everything nonempty accepted
  rw [String.ofList_toList] at source
  obtain ⟨limit, condition, grouping⟩ := clauses_everything unblank
  simp only [run, runOn, Clauses.ofStatement, toList_everything, source, limit, condition, grouping,
    Option.bind_some, resident, Clauses.run, takeLimit]

theorem get?_single {dataset found : Dataset} {id : String}
    (resident : (Catalog.empty.insert dataset).get? id = some found) :
    found = dataset ∧ dataset.id = id := by
  rw [Catalog.get?_insert, Function.update_apply] at resident
  split at resident
  · rename_i same
    exact ⟨(Option.some.inj resident).symm, same.symm⟩
  · cases resident

/-- A table can be named between double quotes, in whatever catalog it is, exactly when there is
no blank in its id. -/
theorem run_everything_iff (id : String) (named : id ≠ "") (unquoted : '"' ∉ id.toList) :
    (∀ (catalog : Catalog) (dataset : Dataset), catalog.get? id = some dataset →
      run catalog ("SELECT * FROM \"" ++ id ++ "\"") = dataset.rows) ↔
    ∀ c ∈ id.toList, isBlank c = false := by
  constructor
  · -- A row that is alone in its catalog comes out only if the statement names its table.
    intro reachable
    let dataset : Dataset := ⟨id, [], [Row.empty]⟩
    have resident : (Catalog.empty.insert dataset).get? id = some dataset := by
      simp [Catalog.get?, Catalog.insert, Catalog.empty, placeById, dataset]
    have rows := reachable _ dataset resident
    cases named : (Clauses.ofStatement ("SELECT * FROM \"" ++ id ++ "\"")).source.bind
        (Catalog.empty.insert dataset).get? with
    | none =>
      simp only [run, runOn, named] at rows
      cases rows
    | some other =>
      obtain ⟨table, source, found⟩ := Option.bind_eq_some_iff.mp named
      obtain ⟨-, rfl⟩ := get?_single found
      intro c member
      simpa using (Bool.and_eq_true_iff.mp (isTableChar_of_findSource source c member)).2
  · intro unblank catalog dataset resident
    exact run_everything named unquoted unblank resident

set_option maxRecDepth 4000 in
/-- A name may mention the words of all clauses. -/
theorem run_everything_clause_words :
    "FROM-WHERE-GROUP.BY-x-LIMIT-3" ≠ "" ∧ '"' ∉ "FROM-WHERE-GROUP.BY-x-LIMIT-3".toList ∧
    ∀ (catalog : Catalog) (dataset : Dataset),
      catalog.get? "FROM-WHERE-GROUP.BY-x-LIMIT-3" = some dataset →
      run catalog "SELECT * FROM \"FROM-WHERE-GROUP.BY-x-LIMIT-3\"" = dataset.rows := by
  have named : "FROM-WHERE-GROUP.BY-x-LIMIT-3" ≠ "" := by decide
  have unquoted : '"' ∉ "FROM-WHERE-GROUP.BY-x-LIMIT-3".toList := by decide
  have unblank : ∀ c ∈ "FROM-WHERE-GROUP.BY-x-LIMIT-3".toList, isBlank c = false := by decide
  exact ⟨named, unquoted, (run_everything_iff _ named unquoted).mpr unblank⟩

set_option maxRecDepth 4000 in
/-- Of a name with a blank the part before the blank is looked up, and that is another table. -/
theorem run_spaced_name :
    let sales : Dataset := ⟨"my sales", [], [Row.ofList [("region", .text "North")]]⟩
    let other : Dataset := ⟨"my", [], [Row.ofList [("region", .text "South")]]⟩
    let catalog := (Catalog.empty.insert sales).insert other
    catalog.get? "my sales" = some sales ∧
    run catalog "SELECT * FROM \"my sales\"" = other.rows ∧ other.rows ≠ sales.rows := by
  decide

end Tabular.Sql
