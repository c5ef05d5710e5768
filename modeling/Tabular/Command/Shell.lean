import Tabular.Listing
import Tabular.Service
import Tabular.Settings.Basic
import Tabular.Text.Utf8

/-! The shell: lines of input, each of them a statement or a command of the shell. -/

set_option autoImplicit false

namespace Tabular.Command

structure Outcome where
  code : Nat
  output : String
  deriving DecidableEq, Repr

def capNotice (answer : Answer) : String :=
  if answer.truncated then
    "(results capped: showing " ++ toString answer.rowCount ++ " of "
      ++ toString answer.totalRowCount ++ " rows)\n"
  else ""

def showAnswer (format : OutputFormat) (answer : Answer) : String :=
  match format with
  | .json => answer.toJson.renderLines ++ "\n"
  | .table => listRows answer.data ++ capNotice answer

def showStatement (service : Service) (format : OutputFormat) (statement : String) : String :=
  showAnswer format (service.handle ⟨"", .sql statement⟩)

namespace Shell

def banner : String := "QueryLens shell. Type \\? for help, \\q to quit.\n\n"

def help : String :=
  "Meta-commands:\n"
    ++ "  \\d, \\dt            - List datasets\n"
    ++ "  \\q, \\quit          - Quit\n"
    ++ "  \\?, \\h, \\help      - Show this help\n"
    ++ "\nQueries: SELECT col, SUM(col) [AS alias] FROM \"dataset\"\n"
    ++ "         [WHERE col =|>|< value] [GROUP BY col] [LIMIT n]\n"

def quitWords : List String := ["\\q", "\\quit", "quit", "exit"]

def respond (service : Service) (format : OutputFormat) (line : String) : String :=
  if line.isEmpty then ""
  else if line ∈ ["\\d", "\\dt"] then listDatasets service.catalog.datasets
  else if line ∈ ["\\?", "\\h", "\\help"] then help
  else if line.toList.head? = some '\\' then
    "Unknown meta-command: " ++ line ++ ". Use \\? for help.\n"
  else showStatement service format line

/-- Answers lines until one quits, the input ends, or a line is no text. -/
def answerLines (service : Service) (format : OutputFormat) : List (List UInt8) → Outcome
  | [] => ⟨0, "quit\n"⟩
  | bytes :: lines =>
    match Text.decodeBytes bytes with
    | .error _ => ⟨1, ""⟩
    | .ok text =>
      let line := Text.trim text
      if line ∈ quitWords then ⟨0, ""⟩
      else
        let outcome := answerLines service format lines
        ⟨outcome.code, respond service format line ++ outcome.output⟩

/-- The lines of an input; a line end at the very end begins no other line. -/
def linesOf (input : List UInt8) : List (List UInt8) :=
  let parts := Text.splitAt 0x0A input
  if parts.getLast? = some [] then parts.dropLast else parts

def run (service : Service) (format : OutputFormat) (input : List UInt8) : Outcome :=
  let outcome := answerLines service format (linesOf input)
  ⟨outcome.code, banner ++ outcome.output⟩

end Shell

end Tabular.Command
