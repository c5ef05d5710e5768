import Tabular.Text.Split

/-! Files and folders as the program sees them.

A program that reads files is written against `Files`, whatever effect reading has. A tree
of files held as a value is one instance, in which reading has no effect.
-/

set_option autoImplicit false

namespace Tabular

inductive FileFault where
  | notFound
  | notFolder
  | isFolder
  | other (message : String)
  deriving DecidableEq, Repr

inductive FileKind where
  | file
  | folder
  deriving DecidableEq, Repr

/-- Reading files within an effect. -/
structure Files (m : Type → Type) where
  /-- What a path leads to, if anything. -/
  kind : String → m (Option FileKind)
  contents : String → m (Except FileFault (List UInt8))
  /-- The names in a folder, in no particular order, with what they lead to. -/
  entries : String → m (Except FileFault (List (String × FileKind)))

inductive FileTree where
  | file (contents : List UInt8)
  | folder (entries : List (String × FileTree))

namespace FileTree

def kind : FileTree → FileKind
  | .file _ => .file
  | .folder _ => .folder

/-- Goes down from a place, of which `above` are the folders around it, the nearest first.
Nothing is above the top. -/
def walk (above : List FileTree) (place : FileTree) : List String → Except FileFault FileTree
  | [] => .ok place
  | name :: names =>
    match place with
    | .file _ => .error .notFolder
    | .folder entries =>
      if name = "" ∨ name = "." then walk above place names
      else if name = ".." then
        match above with
        | [] => walk [] place names
        | parent :: others => walk others parent names
      else
        match entries.find? fun entry => entry.1 == name with
        | some entry => walk (place :: above) entry.2 names
        | none => .error .notFound

/-- What a relative path leads to. The tree does not know other paths. -/
def lookup (tree : FileTree) (path : String) : Except FileFault FileTree :=
  match path.toList with
  | [] | '/' :: _ => .error .notFound
  | chars => tree.walk [] ((Text.splitAt '/' chars).map String.ofList)

def files (tree : FileTree) : Files Id where
  kind path := (tree.lookup path).toOption.map kind
  contents path :=
    match tree.lookup path with
    | .ok (.file contents) => .ok contents
    | .ok (.folder _) => .error .isFolder
    | .error fault => .error fault
  entries path :=
    match tree.lookup path with
    | .ok (.folder entries) => .ok (entries.map fun entry => (entry.1, entry.2.kind))
    | .ok (.file _) => .error .notFolder
    | .error fault => .error fault

def put (tree : FileTree) : List String → FileTree → FileTree
  | [], placed => placed
  | name :: names, placed =>
    let entries := match tree with
      | .folder entries => entries
      | .file _ => []
    let old := match entries.find? fun entry => entry.1 == name with
      | some entry => entry.2
      | none => .folder []
    .folder ((entries.filter fun entry => entry.1 != name) ++ [(name, old.put names placed)])

end FileTree

end Tabular
