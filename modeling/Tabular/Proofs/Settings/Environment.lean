import Tabular.Proofs.Settings.Word
import Tabular.Proofs.Text.Utf8
import Tabular.Settings.Load

/-! Settings from the environment.

A variable has the last word on the setting that it names and on no other. A setting that is a
text takes what the word of the variable is printed as, so it is the word itself only where that
spells no scalar or is what the scalar is printed as.
-/

set_option autoImplicit false

namespace Tabular.Settings

/-! ## Entries by name -/

section Names

variable {name : String} {before middle after entries others : Entries}

theorem lookup_between_of_ne (different : ∀ entry ∈ middle, entry.1 ≠ name) :
    lookup (before ++ middle ++ after) name = lookup (before ++ after) name := by
  have unfound : (middle.reverse.find? fun entry => entry.1 == name) = none := by
    rw [List.find?_eq_none]
    intro entry member
    rw [beq_iff_eq]
    exact different entry (List.mem_reverse.mp member)
  simp only [lookup, List.reverse_append, List.find?_append, unfound, Option.none_or]

theorem lookup_last (entry : Entry) (last : ∀ later ∈ after, later.1 ≠ name) :
    lookup (before ++ (name, entry) :: after) name = some entry := by
  have split : before ++ (name, entry) :: after = before ++ [(name, entry)] ++ after ++ [] := by
    simp
  rw [split, lookup_between_of_ne last, lookup]
  simp

theorem setting?_of_lookup {α : Type} {convert : Entry → Option α} {default : α}
    (same : lookup entries name = lookup others name) :
    setting? entries name convert default = setting? others name convert default := by
  rw [setting?, setting?, same]

theorem ofEntries?_eq_some_iff {settings : Settings} :
    ofEntries? entries = some settings ↔
      setting? entries "data_dir" Entry.toText? "./data" = some settings.dataDir ∧
      setting? entries "max_result_rows" optionalCount? none = some settings.maxRows ∧
      setting? entries "log_level" Entry.toText? "warn" = some settings.logLevel ∧
      setting? entries "output" (fun entry => entry.chosenName?.bind OutputFormat.ofName?) .table =
        some settings.output := by
  obtain ⟨dataDir, maxRows, logLevel, output⟩ := settings
  simp only [ofEntries?, Option.bind_eq_bind, Option.bind_eq_some_iff, Option.pure_def,
    Option.some.injEq, Settings.mk.injEq]
  constructor
  · rintro ⟨_, dataDir, _, maxRows, _, logLevel, _, output, rfl, rfl, rfl, rfl⟩
    exact ⟨dataDir, maxRows, logLevel, output⟩
  · rintro ⟨dataDir, maxRows, logLevel, output⟩
    exact ⟨_, dataDir, _, maxRows, _, logLevel, _, output, rfl, rfl, rfl, rfl⟩

end Names

/-! ## Settings that are texts -/

inductive TextSetting where
  | dataDir
  | logLevel
  deriving DecidableEq, Repr

namespace TextSetting

def name : TextSetting → String
  | .dataDir => "data_dir"
  | .logLevel => "log_level"

def variableName (setting : TextSetting) : String := "querylens_" ++ setting.name

def put (setting : TextSetting) (value : String) (settings : Settings) : Settings :=
  match setting with
  | .dataDir => { settings with dataDir := value }
  | .logLevel => { settings with logLevel := value }

end TextSetting

section Variables

variable (setting : TextSetting) {front middle back : Entries} {entry : Entry}
  {key text shown : String} {settings : Settings}

/-- The last entry of a setting decides it, whatever stood in its place, and nothing else. -/
theorem ofEntries?_put (only : ∀ other ∈ middle, other.1 = setting.name)
    (last : ∀ later ∈ back, later.1 ≠ setting.name) (printed : entry.toText? = some shown)
    (made : ofEntries? (front ++ middle ++ back) = some settings) :
    ofEntries? (front ++ (setting.name, entry) :: back) = some (setting.put shown settings) := by
  have put : lookup (front ++ (setting.name, entry) :: back) setting.name = some entry :=
    lookup_last entry last
  have kept {name : String} (other : setting.name ≠ name) :
      lookup (front ++ (setting.name, entry) :: back) name =
        lookup (front ++ middle ++ back) name := by
    have split : front ++ (setting.name, entry) :: back =
        front ++ [(setting.name, entry)] ++ back := by simp
    rw [split, lookup_between_of_ne (List.forall_mem_singleton.mpr other),
      lookup_between_of_ne fun found member => only found member ▸ other]
  rw [ofEntries?_eq_some_iff] at made ⊢
  obtain ⟨dataDir, maxRows, logLevel, output⟩ := made
  -- The setting is found in its last entry, and each of the others where it was.
  cases setting with
  | dataDir =>
    refine ⟨?_, ?_, ?_, ?_⟩
    · rw [setting?, show "data_dir" = TextSetting.dataDir.name from rfl, put]
      exact printed
    · exact (setting?_of_lookup (kept (by decide))).trans maxRows
    · exact (setting?_of_lookup (kept (by decide))).trans logLevel
    · exact (setting?_of_lookup (kept (by decide))).trans output
  | logLevel =>
    refine ⟨?_, ?_, ?_, ?_⟩
    · exact (setting?_of_lookup (kept (by decide))).trans dataDir
    · exact (setting?_of_lookup (kept (by decide))).trans maxRows
    · rw [setting?, show "log_level" = TextSetting.logLevel.name from rfl, put]
      exact printed
    · exact (setting?_of_lookup (kept (by decide))).trans output

theorem ofVariable?_of_lower (named : Text.lower key = setting.variableName) :
    ofVariable? key text = some (setting.name, .ofWord text) := by
  have lowered : Text.lowerChars key.toList = setting.variableName.toList := by
    rw [← named, Text.lower, String.toList_ofList]
  unfold ofVariable?
  rw [lowered]
  cases setting <;> rfl

theorem lower_of_ofVariable? (made : ofVariable? key text = some (setting.name, entry)) :
    Text.lower key = setting.variableName := by
  simp only [ofVariable?, Option.ite_none_right_eq_some, List.isPrefixOf_iff_prefix,
    Option.some.injEq, Prod.mk.injEq] at made
  obtain ⟨⟨rest, starts⟩, named, -⟩ := made
  rw [← starts, List.drop_left] at named
  rw [Text.lower, ← starts, String.ofList_append, named]
  rfl

variable {before instead after : List (String × String)}

/-- A variable of the environment puts what its word is taken for, whatever it held before. -/
theorem ofSources?_put (file : Entries) (named : Text.lower key = setting.variableName)
    (last : ∀ later ∈ after, Text.lower later.1 ≠ setting.variableName)
    (without : instead = [] ∨ ∃ other, instead = [(key, other)])
    (printed : (Entry.ofWord text).toText? = some shown)
    (made : ofSources? file (before ++ instead ++ after) = some settings) :
    ofSources? file (before ++ (key, text) :: after) = some (setting.put shown settings) := by
  simp only [ofSources?, List.filterMap_append, List.filterMap_cons,
    ofVariable?_of_lower setting named, ← List.append_assoc] at made ⊢
  refine ofEntries?_put setting ?_ ?_ printed made
  · -- The variable that stood here before named the same setting.
    intro entry member
    rcases without with rfl | ⟨other, rfl⟩
    · cases member
    · rw [List.filterMap_cons, ofVariable?_of_lower setting named] at member
      rw [List.mem_singleton.mp member]
  · intro entry member same
    obtain ⟨later, among, found⟩ := List.mem_filterMap.mp member
    have made : ofVariable? later.1 later.2 = some (setting.name, entry.2) := by rw [found, ← same]
    exact last later among (lower_of_ofVariable? setting made)

variable (files : Files Id) (explicit : Option String) (parsers : Parsers)

theorem load_eq_bind (environment : List (String × String)) :
    load files explicit environment parsers =
      (Id.run (sourceEntries files explicit parsers)).bind fun entries =>
        ofSources? entries environment := by
  simp only [load, bind, Id.run]
  cases sourceEntries files explicit parsers <;> rfl

/-- A variable of a setting that is a text puts what its word is taken for, whatever the file or
the variable said before, and leaves the other settings as they are. The word itself arrives
exactly when it spells no scalar or is what one is printed as. -/
theorem load_verbatim_iff (named : Text.lower key = setting.variableName)
    (last : ∀ later ∈ after, Text.lower later.1 ≠ setting.variableName)
    (without : instead = [] ∨ ∃ other, instead = [(key, other)])
    (loads : load files explicit (before ++ instead ++ after) parsers = some settings) :
    ∃ shown,
      load files explicit (before ++ (key, text) :: after) parsers =
        some (setting.put shown settings) ∧
      Entry.TakenFor text shown ∧
      (shown = text ↔ (∀ scalar, ¬Entry.Spells text scalar) ∨ Entry.Canonical text) := by
  obtain ⟨shown, takenFor, printed⟩ := Entry.exists_takenFor text
  refine ⟨shown, ?_, takenFor, ?_⟩
  · rw [load_eq_bind, Option.bind_eq_some_iff] at loads ⊢
    obtain ⟨file, read, made⟩ := loads
    exact ⟨file, read, ofSources?_put setting file named last without printed made⟩
  · rw [← Entry.toText?_ofWord_eq_self_iff, printed, Option.some.injEq]

end Variables

/-! ## Files that are given -/

section Given

variable {files : Files Id} {parsers : Parsers} {path : String} {format : Format}

theorem load_of_resolve {text : String}
    (resolved : Id.run (resolve files parsers.order path) = some (format, Text.encodeBytes text))
    (unmarked : Text.dropMark (Text.encodeBytes text) = Text.encodeBytes text)
    (environment : List (String × String)) :
    load files (some path) environment parsers =
      (parsers.parse format text.toList).bind fun entries => ofSources? entries environment := by
  have read : parsers.readEntries? format (Text.encodeBytes text) =
      parsers.parse format text.toList := by
    rw [Parsers.readEntries?, unmarked, Text.decodeLoosely_encodeBytes]
  rw [← read]
  simp only [load_eq_bind, sourceEntries, bind, Id.run] at resolved ⊢
  rw [resolved]
  rfl

theorem space_nil : Toml.space [] = .ok ⟨(), [], Nat.le_refl _⟩ := by
  rw [Toml.space, Text.Reader.map, Text.Reader.andThen]
  unfold Text.Reader.repeated
  rfl

theorem toml_nil : Parsers.toml [] = some [] := by
  -- The reader goes by what is left of the text, so it opens only where it is unfolded.
  have read : Toml.statements ⟨[], []⟩ [] = .ok ⟨⟨[], []⟩, [], Nat.le_refl _⟩ := by
    unfold Toml.statements
    rw [space_nil]
  rw [Parsers.toml, Toml.read, read]
  rfl

end Given

section Holding

def holding (name text : String) : Files Id :=
  (FileTree.folder [(name, .file (Text.encodeBytes text))]).files

theorem load_emptyFile (environment : List (String × String)) :
    load (holding "querylens.toml" "") (some "querylens.toml") environment =
      ofSources? [] environment := by
  have resolved : Id.run (resolve (holding "querylens.toml" "") Parsers.own.order
      "querylens.toml") = some (.toml, Text.encodeBytes "") := by decide
  have parsed : Parsers.own.parse .toml "".toList = some [] := toml_nil
  rw [load_of_resolve resolved rfl, parsed]
  rfl

/-- The zeros in front of a number do not arrive. -/
theorem load_zeros_dropped :
    let files := holding "querylens.toml" ""
    load files (some "querylens.toml") [] = some {} ∧
      load files (some "querylens.toml") [("QUERYLENS_DATA_DIR", "007")] =
        some { dataDir := "7" } ∧
      "7" ≠ "007" := by
  have unset : ofSources? [] [] = some {} := by decide
  have set : ofSources? [] [("QUERYLENS_DATA_DIR", "007")] = some { dataDir := "7" } := by decide
  exact ⟨(load_emptyFile _).trans unset, (load_emptyFile _).trans set, by decide⟩

/-- The file is in YAML, and is found without its extension. Its level gives way to the word of a
truth value, and this to a name of no number. -/
theorem load_verbatim_iff_named :
    let line := "log_level: info"
    let files := holding "querylens.yml" line
    let parsers : Parsers :=
      { Parsers.own with
        parse := fun format text =>
          if format = .yaml ∧ text = line.toList then some [("log_level", .text "info")] else none }
    let before := [("QUERYLENS_MAX_RESULT_ROWS", "5")]
    let instead := [("querylens_log_level", "TRUE")]
    load files (some "querylens") [] parsers = some { logLevel := "info" } ∧
      Text.lower "querylens_log_level" = TextSetting.logLevel.variableName ∧
      (∀ later ∈ ([] : List (String × String)),
        Text.lower later.1 ≠ TextSetting.logLevel.variableName) ∧
      load files (some "querylens") (before ++ instead ++ []) parsers =
        some { maxRows := some 5, logLevel := "true" } ∧
      ∃ shown,
        load files (some "querylens") (before ++ [("querylens_log_level", "Nan")]) parsers =
          some { maxRows := some 5, logLevel := shown } ∧
        Entry.TakenFor "Nan" shown ∧
        (shown = "Nan" ↔ (∀ scalar, ¬Entry.Spells "Nan" scalar) ∨ Entry.Canonical "Nan") := by
  intro line files parsers before instead
  have named : Text.lower "querylens_log_level" = TextSetting.logLevel.variableName := by decide
  have resolved : Id.run (resolve files parsers.order "querylens") =
      some (.yaml, Text.encodeBytes line) := by decide
  have parsed : parsers.parse .yaml line.toList = some [("log_level", .text "info")] :=
    if_pos ⟨rfl, rfl⟩
  have loaded (environment : List (String × String)) :
      load files (some "querylens") environment parsers =
        ofSources? [("log_level", .text "info")] environment := by
    rw [load_of_resolve resolved rfl, parsed]
    rfl
  have alone : ofSources? [("log_level", .text "info")] [] = some { logLevel := "info" } := by
    decide
  have made : ofSources? [("log_level", .text "info")] (before ++ instead ++ []) =
      some { maxRows := some 5, logLevel := "true" } := by decide
  have loads := (loaded (before ++ instead ++ [])).trans made
  refine ⟨(loaded []).trans alone, named, List.forall_mem_nil _, loads, ?_⟩
  exact load_verbatim_iff .logLevel files _ parsers named (List.forall_mem_nil _) (.inr ⟨_, rfl⟩)
    loads

end Holding

end Tabular.Settings
