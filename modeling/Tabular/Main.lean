import Tabular.Command.Run

/-! The command as a program: its files, variables and input are those of the system. -/

set_option autoImplicit false

namespace Tabular.Command

def faultOf : IO.Error → FileFault
  | .noFileOrDirectory _ _ _ => .notFound
  | .inappropriateType _ _ _ => .notFolder
  | error => .other (toString error)

def kindOf (type : IO.FS.FileType) : FileKind := if type == .file then .file else .folder

def kindAt (path : String) : IO (Option FileKind) := do
  match ← (do (← IO.FS.realPath path).metadata).toBaseIO with
  | .ok found => return some (kindOf found.type)
  | .error _ => return none

def contentsAt (path : String) : IO (Except FileFault (List UInt8)) := do
  match ← (IO.FS.readBinFile path).toBaseIO with
  | .ok bytes => return .ok bytes.data.toList
  | .error error => return .error (faultOf error)

def entriesAt (path : String) : IO (Except FileFault (List (String × FileKind))) := do
  match ← (do (← IO.FS.realPath path).readDir).toBaseIO with
  | .ok found =>
    let named ← found.mapM fun entry => do
      return (entry.fileName, (← kindAt (path ++ "/" ++ entry.fileName)).getD .folder)
    return .ok named.toList
  | .error error => return .error (faultOf error)

def systemFiles : Files IO where
  kind := kindAt
  contents := contentsAt
  entries := entriesAt

def variablesOf (bytes : List UInt8) : List (String × String) :=
  (Text.splitAt 0 bytes).filterMap fun entry =>
    match Text.decodeBytes entry with
    | .error _ => none
    | .ok text =>
      match text.toList.span (· != '=') with
      | (name, _ :: value) => some (String.ofList name, String.ofList value)
      | (_, []) => none

def settingVariables : List String :=
  ["QUERYLENS_DATA_DIR", "QUERYLENS_MAX_RESULT_ROWS", "QUERYLENS_LOG_LEVEL", "QUERYLENS_OUTPUT"]

/-- The variables, or where the system does not list them those under the usual names. -/
def systemVariables : IO (List (String × String)) := do
  match ← contentsAt "/proc/self/environ" with
  | .ok bytes => return variablesOf bytes
  | .error _ =>
    settingVariables.filterMapM fun name => return (← IO.getEnv name).map fun value => (name, value)

end Tabular.Command

open Tabular Command in
def main (arguments : List String) : IO UInt32 := do
  let input : IO (List UInt8) := return (← (← IO.getStdin).readBinToEnd).data.toList
  let outcome ← run ⟨systemFiles, ← systemVariables, input⟩ arguments
  IO.print outcome.output
  return UInt32.ofNat outcome.code
