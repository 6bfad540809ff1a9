import CallPolicy.CommandLine.Run

/-! The command line program.

It loads the files that the arguments may refer to, and prints what the run says.
-/

set_option autoImplicit false

open CallPolicy

namespace CallPolicy.Main

/-- Of a repository's own files only the excludes count. -/
def isWanted (folder name : String) : Bool :=
  folder != ".git" || name == "info"

/-- The tree of files at an entry of a folder; what cannot be read is left out. -/
partial def loadTree (entry : IO.FS.DirEntry) : IO (Option FileTree) := do
  if ← entry.path.isDir then
    let mut tree := FileTree.folder []
    for child in ← entry.path.readDir do
      if isWanted entry.fileName child.fileName then
        if let some loaded ← loadTree child then
          tree := tree.insert loaded [child.fileName]
    return some tree
  else
    try
      return some (.file (← IO.FS.readBinFile entry.path).toList)
    catch _ => return none

/-- The names of files and folders that hold rules. -/
def ruleNames : List String :=
  [".wardenignore", ".ignore", ".gitignore", ".git", ".jj"]

/-- Put the tree at a path into a larger one. -/
def load (tree : FileTree) (names : List String) : IO FileTree := do
  let folder := "/" ++ String.intercalate "/" names.dropLast
  match ← loadTree { root := folder, fileName := names.getLast?.getD "." } with
  | some loaded => return tree.insert loaded names
  | none => return tree

/-- The names that lead to a place, without steps up. -/
def plain (names : List String) : List String :=
  (names.foldl (fun walked name =>
    if name = ".." then walked.tail else if name = "." then walked else name :: walked) []).reverse

/-- Every folder above a place. -/
def above : List String → List (List String)
  | [] => []
  | name :: rest => [] :: (above rest).map (name :: ·)

/-- The parts of an argument that may be paths. -/
def pathTexts (argument : String) : List String :=
  [argument, String.ofList ((argument.toList.dropWhile (· != '=')).drop 1)]

/-- The tree with the folder of the process, what the arguments lead to outside of it, and
the rules of the folders above. -/
def loadWorkspace (arguments : List String) : IO Workspace := do
  let folder := Path.parts (← IO.currentDir).toString
  let mut tree ← load (.folder []) folder
  for argument in arguments.flatMap pathTexts do
    let names := plain (Workspace.fromRoot ⟨tree, folder⟩ argument)
    if !folder.isPrefixOf names then
      tree ← load tree names
  for names in above folder do
    for name in ruleNames do
      tree ← load tree (names ++ [name])
  return ⟨tree, folder⟩

end CallPolicy.Main

def main (arguments : List String) : IO UInt32 := do
  let workspace ← CallPolicy.Main.loadWorkspace arguments
  let output := CommandLine.run workspace arguments
  IO.print output.stdout
  IO.eprint output.stderr
  return .ofNat output.exitCode
