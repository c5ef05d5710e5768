import Tabular.Settings.Entry

/-! Settings: what a configuration decides, with defaults for what it leaves open.

The environment has the last word over a configuration file, and an entry of an unknown
name changes nothing.
-/

set_option autoImplicit false

namespace Tabular

inductive OutputFormat where
  | table
  | json
  deriving DecidableEq, Repr

def OutputFormat.ofName? (name : String) : Option OutputFormat :=
  if name = "table" then some .table else if name = "json" then some .json else none

structure Settings where
  dataDir : String := "./data"
  /-- The cap on the rows of an answer. -/
  maxRows : Option Nat := none
  logLevel : String := "warn"
  output : OutputFormat := .table
  deriving DecidableEq, Repr

namespace Settings

/-- Entries by lower-case names. The last of a name counts. -/
abbrev Entries : Type := List (String × Entry)

def lookup (entries : Entries) (name : String) : Option Entry :=
  (entries.reverse.find? fun entry => entry.1 == name).map Prod.snd

def lowerNames (entries : Entries) : Entries :=
  entries.map fun entry => (Text.lower entry.1, entry.2)

def variableStart : List Char := "querylens_".toList

def ofVariable? (name value : String) : Option (String × Entry) :=
  let lowered := Text.lowerChars name.toList
  if variableStart.isPrefixOf lowered then
    some (String.ofList (lowered.drop variableStart.length), .ofWord value)
  else none

/-- A setting that has an entry takes its value from there, and fails if it cannot. -/
def setting? {α : Type} (entries : Entries) (name : String) (convert : Entry → Option α)
    (default : α) : Option α :=
  match lookup entries name with
  | some entry => convert entry
  | none => some default

def optionalCount? : Entry → Option (Option Nat)
  | .nothing => some none
  | entry => entry.toCount?.map some

def ofEntries? (entries : Entries) : Option Settings := do
  return {
    dataDir := ← setting? entries "data_dir" Entry.toText? "./data"
    maxRows := ← setting? entries "max_result_rows" optionalCount? none
    logLevel := ← setting? entries "log_level" Entry.toText? "warn"
    output := ← setting? entries "output" (fun entry => entry.chosenName?.bind OutputFormat.ofName?)
      .table }

def ofSources? (file : Entries) (environment : List (String × String)) : Option Settings :=
  ofEntries? (lowerNames file ++ environment.filterMap fun found => ofVariable? found.1 found.2)

end Settings

end Tabular
