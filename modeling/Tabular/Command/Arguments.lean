import Tabular.Number.Numeral
import Tabular.Settings.Basic
import Tabular.Text.Split

/-! Arguments of the command: options, then an action with arguments of its own.

An option takes its value from the same argument or from the next one. No option is given
twice, and a next argument that looks like an option is no value.
-/

set_option autoImplicit false

namespace Tabular.Command

inductive Action where
  | datasets
  | query (dataset json : String)
  | sql (statement : String)
  | request
  | shell
  deriving DecidableEq, Repr

structure Options where
  config : Option String := none
  dataDir : Option String := none
  output : Option OutputFormat := none
  maxRows : Option Nat := none
  deriving DecidableEq, Repr

structure Arguments where
  options : Options
  action : Action
  deriving DecidableEq, Repr

inductive Stop where
  | helpWanted
  | misuse
  deriving DecidableEq, Repr

inductive Word (α : Type) where
  | option (name : α) (attached : Option String)
  | help
  | plain (text : String)
  /-- Two dashes; no argument behind them is an option. -/
  | dashes
  | unknown

structure Naming (α : Type) where
  letter : Char → Option α
  long : String → Option α

def afterEquals : List Char → Option String
  | '=' :: value => some (String.ofList value)
  | _ => none

def longWord {α : Type} (naming : Naming α) (body : List Char) : Word α :=
  let (name, rest) := body.span (· != '=')
  match String.ofList name, afterEquals rest with
  | "help", none => .help
  | name, attached =>
    match naming.long name with
    | some option => .option option attached
    | none => .unknown

def shortWord {α : Type} (naming : Naming α) (letter : Char) (rest : List Char) : Word α :=
  if letter = 'h' then .help
  else match naming.letter letter with
    | some option =>
      .option option (if rest.isEmpty then none else (afterEquals rest).or (some (String.ofList rest)))
    | none => .unknown

def classify {α : Type} (naming : Naming α) (argument : String) : Word α :=
  match argument.toList with
  | ['-', '-'] => .dashes
  | '-' :: '-' :: body => longWord naming body
  | '-' :: letter :: rest => shortWord naming letter rest
  | _ => .plain argument

/-- A single dash is a value like any other. -/
def looksLikeOption (argument : String) : Bool :=
  argument.toList.head? == some '-' && argument != "-"

inductive OptionName where
  | config
  | dataDir
  | output
  | maxRows
  deriving DecidableEq, Repr

def OptionName.naming : Naming OptionName where
  letter c :=
    if c = 'c' then some .config
    else if c = 'd' then some .dataDir
    else if c = 'o' then some .output
    else none
  long name :=
    match name with
    | "config" => some .config
    | "data-dir" => some .dataDir
    | "output" => some .output
    | "max-rows" => some .maxRows
    | _ => none

def path? (value : String) : Option String := if value.isEmpty then none else some value

def Options.set? (options : Options) (name : OptionName) (value : String) : Option Options :=
  match name with
  | .config =>
    if options.config.isSome then none
    else (path? value).map fun path => { options with config := some path }
  | .dataDir =>
    if options.dataDir.isSome then none
    else (path? value).map fun path => { options with dataDir := some path }
  | .output =>
    if options.output.isSome then none
    else (OutputFormat.ofName? value).map fun format => { options with output := some format }
  | .maxRows =>
    if options.maxRows.isSome then none
    else (Number.readWord 10 value.toList).map fun count => { options with maxRows := some count }

/-- The arguments of an action: plain ones, and one option with a value if it has one. -/
structure Inner where
  plain : List String := []
  json : Option String := none

def innerNaming (takesJson : Bool) : Naming Unit where
  letter _ := none
  long name := if takesJson && name == "json" then some () else none

def readInner (takesJson : Bool) : (room : Nat) → Inner → List String → Except Stop Inner
  | _, inner, [] => .ok inner
  | room, inner, argument :: rest =>
    match classify (innerNaming takesJson) argument with
    | .help => .error .helpWanted
    | .unknown => .error .misuse
    | .dashes =>
      if rest.length ≤ room then .ok { inner with plain := inner.plain ++ rest } else .error .misuse
    | .plain text =>
      match room with
      | 0 => .error .misuse
      | room + 1 => readInner takesJson room { inner with plain := inner.plain ++ [text] } rest
    | .option () attached =>
      if inner.json.isSome then .error .misuse
      else match attached, rest with
        | some value, rest => readInner takesJson room { inner with json := some value } rest
        | none, value :: rest =>
          if looksLikeOption value then .error .misuse
          else readInner takesJson room { inner with json := some value } rest
        | none, [] => .error .misuse

def readBare (action : Action) (rest : List String) : Except Stop Action :=
  (readInner false 0 {} rest).map fun _ => action

def actionNames : List String := ["datasets", "query", "sql", "request", "shell", "help"]

def readAction (name : String) (rest : List String) : Except Stop Action :=
  match name with
  | "datasets" => readBare .datasets rest
  | "request" => readBare .request rest
  | "shell" => readBare .shell rest
  | "sql" =>
    match readInner false 1 {} rest with
    | .ok ⟨[statement], _⟩ => .ok (.sql statement)
    | .ok _ => .error .misuse
    | .error stop => .error stop
  | "query" =>
    match readInner true 1 {} rest with
    | .ok ⟨[dataset], some json⟩ => .ok (.query dataset json)
    | .ok _ => .error .misuse
    | .error stop => .error stop
  | "help" =>
    match rest with
    | [] => .error .helpWanted
    | [topic] => .error (if topic ∈ actionNames then .helpWanted else .misuse)
    | _ => .error .misuse
  | _ => .error .misuse

/-- Reads options up to the action, on top of those read before. -/
def readFrom (options : Options) : List String → Except Stop Arguments
  | [] => .error .misuse
  | argument :: rest =>
    match classify OptionName.naming argument with
    | .help => .error .helpWanted
    | .unknown | .dashes => .error .misuse
    | .plain name => (readAction name rest).map fun action => ⟨options, action⟩
    | .option name attached =>
      match attached, rest with
      | some value, rest =>
        match options.set? name value with
        | some options => readFrom options rest
        | none => .error .misuse
      | none, value :: rest =>
        if looksLikeOption value then .error .misuse
        else match options.set? name value with
          | some options => readFrom options rest
          | none => .error .misuse
      | none, [] => .error .misuse

def Arguments.read (arguments : List String) : Except Stop Arguments := readFrom {} arguments

def Options.override (options : Options) (settings : Settings) : Settings :=
  { settings with
    dataDir := options.dataDir.getD settings.dataDir
    output := options.output.getD settings.output
    maxRows := options.maxRows.or settings.maxRows }

end Tabular.Command
