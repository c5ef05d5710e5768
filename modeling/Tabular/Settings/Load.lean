import Tabular.Settings.Basic
import Tabular.Storage.Folder
import Tabular.Toml.Document

/-! Loading settings: finding the configuration file, and reading it by its kind.

Files in TOML and JSON are read here. The parsers of the other kinds are given, and so is the order
in which the kinds are tried where a path has no extension.
-/

set_option autoImplicit false

namespace Tabular.Settings

def usualPaths : List String := ["/etc/querylens/querylens.toml", "./querylens.toml"]

inductive Format where
  | toml
  | json
  | yaml
  | ini
  | ron
  | json5
  deriving DecidableEq, Repr

namespace Format

def all : List Format := [.toml, .json, .yaml, .ini, .ron, .json5]

def extensions : Format → List String
  | .toml => ["toml"]
  | .json => ["json"]
  | .yaml => ["yaml", "yml"]
  | .ini => ["ini"]
  | .ron => ["ron"]
  | .json5 => ["json5"]

def ofExtension? (ending : String) : Option Format :=
  all.find? fun format => format.extensions.contains ending

end Format

structure Parsers where
  /-- The order in which extensions are added to a path that leads to no file. -/
  order : List Format
  parse : Format → List Char → Option Entries

namespace Parsers

def toml (text : List Char) : Option Entries :=
  (Toml.read text).map fun members => members.map fun found => (found.1, Entry.ofToml found.2)

def json (text : List Char) : Option Entries :=
  match Json.readAll (Json.document .careful Json.maxDepth) (String.ofList text) with
  | .ok (.object members) => some (members.map fun found => (found.1, Entry.ofJson found.2))
  | _ => none

/-- Files of other kinds do not load. -/
def own : Parsers where
  order := Format.all
  parse
    | .toml => toml
    | .json => json
    | .yaml | .ini | .ron | .json5 => fun _ => none

def readEntries? (parsers : Parsers) (format : Format) (bytes : List UInt8) : Option Entries :=
  parsers.parse format (Text.decodeLoosely (Text.dropMark bytes))

end Parsers

section Sources

variable {m : Type → Type} [Monad m]

def findExtended (files : Files m) (path : String) :
    List (String × Format) → m (Option (String × Format))
  | [] => return none
  | (ending, format) :: others => do
    let extended := path ++ "." ++ ending
    if (← files.kind extended) = some .file then return some (extended, format)
    else findExtended files path others

def findFile (files : Files m) (order : List Format) (path : String) :
    m (Option (String × Format)) := do
  if (← files.kind path) = some .file then
    let format := (fileName path).bind fun name => (splitExtension name).2.bind Format.ofExtension?
    return format.map fun format => (path, format)
  else
    findExtended files path
      (order.flatMap fun format => format.extensions.map fun ending => (ending, format))

def resolve (files : Files m) (order : List Format) (path : String) :
    m (Option (Format × List UInt8)) := do
  match ← findFile files order path with
  | none => return none
  | some (found, format) =>
    match ← files.contents found with
    | .ok bytes => return some (format, bytes)
    | .error _ => return none

def firstExisting (files : Files m) : List String → m (Option String)
  | [] => return none
  | path :: paths => do
    if (← files.kind path).isSome then return some path else firstExisting files paths

/-- The entries of a given configuration file, which has to be there, or of the usual one. -/
def sourceEntries (files : Files m) (explicit : Option String) (parsers : Parsers) :
    m (Option Entries) := do
  match explicit with
  | some path =>
    match ← resolve files parsers.order path with
    | none => return none
    | some (format, bytes) => return parsers.readEntries? format bytes
  | none =>
    match ← firstExisting files usualPaths with
    | none => return some []
    | some path =>
      match ← resolve files parsers.order path with
      | none => return some []
      | some (format, bytes) => return parsers.readEntries? format bytes

def load (files : Files m) (explicit : Option String) (environment : List (String × String))
    (parsers : Parsers := .own) : m (Option Settings) := do
  match ← sourceEntries files explicit parsers with
  | some entries => return ofSources? entries environment
  | none => return none

end Sources

end Tabular.Settings
