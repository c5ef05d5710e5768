import Tabular.Command.Arguments
import Tabular.Command.Shell
import Tabular.Settings.Load

/-! Running the command.

A run sees files, variables and its input, and nothing else. It fails when the settings or
the datasets cannot be loaded, or when the input makes no sense.
-/

set_option autoImplicit false

namespace Tabular.Command

structure Surroundings (m : Type → Type) where
  files : Files m
  environment : List (String × String)
  input : m (List UInt8)

def failure : Outcome := ⟨1, ""⟩

def answerRequest (service : Service) (input : List UInt8) : Outcome :=
  match Text.decodeBytes input with
  | .error _ => failure
  | .ok body =>
    match service.handleText body with
    | .ok answer => ⟨0, answer ++ "\n"⟩
    | .error _ => failure

def answerQuery (service : Service) (format : OutputFormat) (dataset json : String) : Outcome :=
  match StructuredQuery.form.decode json with
  | .ok query => ⟨0, showAnswer format (service.handle ⟨dataset, .structured query⟩)⟩
  | .error _ => failure

/-- Performs an action of a service; only some actions look at the input. -/
def perform {m : Type → Type} [Monad m] (service : Service) (format : OutputFormat)
    (input : m (List UInt8)) : Action → m Outcome
  | .datasets => return ⟨0, listDatasets service.catalog.datasets⟩
  | .query dataset json => return answerQuery service format dataset json
  | .sql statement => return ⟨0, showStatement service format statement⟩
  | .request => return answerRequest service (← input)
  | .shell => return Shell.run service format (← input)

def runArguments {m : Type → Type} [Monad m] (surroundings : Surroundings m)
    (arguments : Arguments) (parsers : Settings.Parsers := .own) : m Outcome := do
  match ← Settings.load surroundings.files arguments.options.config surroundings.environment
    parsers with
  | none => return failure
  | some loaded =>
    let settings := arguments.options.override loaded
    match ← loadFolder surroundings.files settings.dataDir with
    | .error _ => return failure
    | .ok catalog =>
      perform ⟨catalog, settings.maxRows⟩ settings.output surroundings.input arguments.action

def run {m : Type → Type} [Monad m] (surroundings : Surroundings m) (arguments : List String)
    (parsers : Settings.Parsers := .own) : m Outcome :=
  match Arguments.read arguments with
  | .ok arguments => runArguments surroundings arguments parsers
  | .error .helpWanted => return ⟨0, ""⟩
  | .error .misuse => return ⟨2, ""⟩

end Tabular.Command
