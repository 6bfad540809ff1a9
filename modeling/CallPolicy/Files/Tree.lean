import CallPolicy.Files.Path
import CallPolicy.Keyed

/-! Trees of files. -/

set_option autoImplicit false

namespace CallPolicy

/-- The entries of a folder are in order of their names. -/
inductive FileTree where
  | file (contents : List UInt8)
  | folder (entries : List (String × FileTree))
  deriving Inhabited

/-- Why a file cannot be read as text. -/
inductive ReadError where
  | notFound
  | notFolder
  | isFolder
  | notText
  deriving DecidableEq, Repr, Inhabited

def ReadError.message : ReadError → String
  | notFound => "No such file or directory (os error 2)"
  | notFolder => "Not a directory (os error 20)"
  | isFolder => "Is a directory (os error 21)"
  | notText => "stream did not contain valid UTF-8"

namespace FileTree

def isFolder : FileTree → Bool
  | file _ => false
  | folder _ => true

def entries : FileTree → List (String × FileTree)
  | file _ => []
  | folder entries => entries

/-- The entry of a name in a folder. -/
def child? (tree : FileTree) (name : String) : Option FileTree :=
  Keyed.look name tree.entries

/-- Put a tree at a place, making the folders on the way. -/
def insert (tree : FileTree) (value : FileTree) : List String → FileTree
  | [] => value
  | name :: rest =>
    folder (Keyed.put name (((tree.child? name).getD (folder [])).insert value rest) tree.entries)

/-- Follow names from a folder. The list holds the names walked so far and the trees they
led to, the last first, with the folder itself at the end. -/
def follow (root : FileTree) : List (String × FileTree) → List String → Except ReadError (List (String × FileTree))
  | trail, [] => .ok trail
  | trail, name :: rest =>
    let here := (trail.head?.map (·.2)).getD root
    if !here.isFolder then .error .notFolder
    else if name = ".." then follow root trail.tail rest
    else if name = "." then follow root trail rest
    else
      match here.child? name with
      | some tree => follow root ((name, tree) :: trail) rest
      | none => .error .notFound

end FileTree

/-- A tree of files, and the folder in it that relative paths start from. -/
structure Workspace where
  root : FileTree
  folder : List String
  deriving Inhabited

namespace Workspace

/-- The names in a path. A separator at the end refers to the folder itself. -/
def steps (path : String) : List String :=
  let names := ((Path.split '/' path.toList).filter (· != [])).map String.ofList
  if path.toList.getLast? = some '/' then names ++ ["."] else names

def fromRoot (workspace : Workspace) (path : String) : List String :=
  if path.toList.head? = some '/' then steps path else workspace.folder ++ steps path

/-- What a path leads to: the names from the root, and the tree there. -/
def locate (workspace : Workspace) (path : String) : Except ReadError (List String × FileTree) :=
  if path = "" then .error .notFound
  else
    match workspace.root.follow [] (workspace.fromRoot path) with
    | .ok [] => .ok ([], workspace.root)
    | .ok ((name, tree) :: trail) => .ok ((((name, tree) :: trail).map (·.1)).reverse, tree)
    | .error error => .error error

def exists? (workspace : Workspace) (path : String) : Bool :=
  (workspace.locate path).toOption.isSome

/-- The text of bytes in UTF-8. -/
def text? (bytes : List UInt8) : Option String :=
  String.fromUTF8? ⟨bytes.toArray⟩

def readText (workspace : Workspace) (path : String) : Except ReadError String :=
  match workspace.locate path with
  | .error error => .error error
  | .ok (_, .folder _) => .error .isFolder
  | .ok (_, .file contents) =>
    match text? contents with
    | some text => .ok text
    | none => .error .notText

def isFile (workspace : Workspace) (path : String) : Bool :=
  match workspace.locate path with
  | .ok (_, .file _) => true
  | _ => false

end Workspace

end CallPolicy
