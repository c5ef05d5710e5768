import Tabular.Catalog
import Tabular.Csv.Dataset
import Tabular.Storage.Files

/-! Catalogs from folders: every file of comma-separated text in a folder is a dataset, and
its name without the extension is the id.

Files are taken in the order of their names, and the first that fails decides the failure.
-/

set_option autoImplicit false

namespace Tabular

inductive LoadFault where
  | file (fault : FileFault)
  | csv (bad : Csv.BadField)
  | refused (refusal : Catalog.Refusal)
  /-- The path does not end in a name. -/
  | noName
  deriving DecidableEq, Repr

/-- The name at the end of a path; a path that ends by going up has none. -/
def fileName (path : String) : Option String :=
  let parts := (Text.splitAt '/' path.toList).filter fun part => part != [] && part != ['.']
  match parts.getLast? with
  | some ['.', '.'] | none => none
  | some part => some (String.ofList part)

/-- A name without its extension, and the extension. A point in front makes no extension. -/
def splitExtension (name : String) : String × Option String :=
  let reversed := name.toList.reverse
  let ending := reversed.takeWhile (· != '.')
  match reversed.drop ending.length with
  | [] | ['.'] => (name, none)
  | _ :: stem => (String.ofList stem.reverse, some (String.ofList ending.reverse))

def isCsvName (name : String) : Bool :=
  (splitExtension name).2.any fun ending => Text.sameIgnoringAsciiCase ending "csv"

def Dataset.ofFile (name : String) (contents : Except FileFault (List UInt8)) :
    Except LoadFault Dataset :=
  match contents with
  | .error fault => .error (.file fault)
  | .ok bytes =>
    match Dataset.ofCsv (splitExtension name).1 bytes with
    | .ok dataset => .ok dataset
    | .error bad => .error (.csv bad)

def Catalog.addFiles (catalog : Catalog) :
    List (String × Except FileFault (List UInt8)) → Except LoadFault Catalog
  | [] => .ok catalog
  | (name, contents) :: files =>
    match Dataset.ofFile name contents with
    | .error fault => .error fault
    | .ok dataset =>
      match catalog.register dataset with
      | .error refusal => .error (.refused refusal)
      | .ok next => next.addFiles files

def csvNames (entries : List (String × FileKind)) : List String :=
  ((entries.filter fun entry => entry.2 == .file && isCsvName entry.1).map Prod.fst).mergeSort
    fun first second => decide (first ≤ second)

def readNamed {m : Type → Type} [Monad m] (files : Files m) (folder : String) :
    List String → m (List (String × Except FileFault (List UInt8)))
  | [] => pure []
  | name :: names => do
    let contents ← files.contents (folder ++ "/" ++ name)
    let others ← readNamed files folder names
    return (name, contents) :: others

def loadFolder {m : Type → Type} [Monad m] (files : Files m) (folder : String) :
    m (Except LoadFault Catalog) := do
  match ← files.entries folder with
  | .error fault => return .error (.file fault)
  | .ok entries => return Catalog.empty.addFiles (← readNamed files folder (csvNames entries))

def loadFile {m : Type → Type} [Monad m] (files : Files m) (path : String) :
    m (Except LoadFault Dataset) := do
  match fileName path with
  | none => return .error .noName
  | some name => return Dataset.ofFile name (← files.contents path)

end Tabular
