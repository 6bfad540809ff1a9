import CallPolicy.Files.IgnoreRules
import CallPolicy.Files.Tree

/-! The source files under a folder.

Folders may hold rules of their own: `.wardenignore`, which counts most, `.ignore`, and in
a repository `.gitignore` and the excludes of the repository. Rules hold for all below
their folder; those of nearer folders count more. Patterns of the settings come before all
rules. Hidden entries are passed over unless a rule keeps them.
-/

set_option autoImplicit false

namespace CallPolicy

structure SourceFile where
  path : String
  language : Language
  deriving DecidableEq, Repr, Inhabited

/-- The rules that one folder adds. -/
structure Layer where
  own : List IgnoreRule
  plain : List IgnoreRule
  git : List IgnoreRule
  excludes : List IgnoreRule
  isRepository : Bool
  deriving Inhabited

namespace Layer

def lineFeed : UInt8 := 10

/-- The lines of a file: an end of the last line may be missing, and a carriage return
belongs to the end of a line. -/
def lines (bytes : List UInt8) : List (List UInt8) :=
  let pieces := bytes.foldr (fun byte pieces =>
    if byte = lineFeed then [] :: pieces
    else
      match pieces with
      | piece :: rest => (byte :: piece) :: rest
      | [] => [[byte]]) [[]]
  let closed := pieces.dropLast.map fun piece =>
    if piece.getLast? = some 13 then piece.dropLast else piece
  -- The last piece is empty exactly when the text ends with its last line.
  let last := pieces.getLast?.getD []
  if last.isEmpty then closed else closed ++ [last]

/-- The lines that are text, up to the first that is not. -/
def textLines : List (List UInt8) → List (List Char)
  | [] => []
  | line :: rest =>
    match Workspace.text? line with
    | some text => text.toList :: textLines rest
    | none => []

/-- A byte order mark at the start does not count. -/
def dropMark : List (List Char) → List (List Char)
  | line :: rest => line.dropWhile (· = '\ufeff') :: rest
  | [] => []

def rulesOf : Option FileTree → List IgnoreRule
  | some (.file contents) => IgnoreRule.ofLines (dropMark (textLines (lines contents)))
  | _ => []

def ofFolder (tree : FileTree) : Layer where
  own := rulesOf (tree.child? ".wardenignore")
  plain := rulesOf (tree.child? ".ignore")
  git := rulesOf (tree.child? ".gitignore")
  excludes := rulesOf (((tree.child? ".git").bind (·.child? "info")).bind (·.child? "exclude"))
  isRepository := (tree.child? ".git").isSome || (tree.child? ".jj").isSome

end Layer

/-- The layers of the folders around a place, the nearest first, each with the names that
lead from its folder to the place. -/
abbrev Layers := List (List String × Layer)

namespace Layers

/-- One name further down. -/
def descend (layers : Layers) (name : String) : Layers :=
  layers.map fun (names, layer) => (names ++ [name], layer)

/-- The nearest layer that decides by some of its rules. -/
def nearest (rules : Layer → List IgnoreRule) (isFolder : Bool) : Layers → Verdict
  | [] => .undecided
  | (names, layer) :: rest => (IgnoreRule.verdict (rules layer) names isFolder).or (nearest rules isFolder rest)

/-- The layers up to that of the innermost repository. -/
def inRepository : Layers → Layers
  | [] => []
  | (names, layer) :: rest => (names, layer) :: if layer.isRepository then [] else inRepository rest

/-- Rules of repositories count only inside of one. -/
def verdict (layers : Layers) (isFolder : Bool) : Verdict :=
  -- Without a repository around the place, rules of repositories do not count at all.
  let repository := if layers.any (·.2.isRepository) then inRepository layers else []
  (nearest Layer.own isFolder layers).or <| (nearest Layer.plain isFolder layers).or <|
    (nearest Layer.git isFolder repository).or (nearest Layer.excludes isFolder repository)

end Layers

namespace FileTree

def isHidden (name : String) : Bool :=
  name.toList.head? = some '.'

/-- Whether to pass over an entry. The names lead to it from the folder of the walk, and
the layers are those of its folder, led on to it. -/
def skips (patterns : List IgnoreRule) (names : List String) (name : String) (layers : Layers)
    (isFolder : Bool) : Bool :=
  match (IgnoreRule.verdict patterns names isFolder).or (layers.verdict isFolder) with
  | .ignored => true
  | .kept => false
  | .undecided => isHidden name

/-- A path one name further down. -/
def joined (path name : String) : String :=
  if path.toList.getLast? = some '/' then path ++ name else path ++ "/" ++ name

mutual

/-- The source files in a tree, in the order of their paths. -/
def sources (patterns : List IgnoreRule) (path : String) (names : List String) (layers : Layers) :
    FileTree → List SourceFile
  | .file _ => ((Language.ofPath? path).map fun language => ⟨path, language⟩).toList
  | .folder entries =>
    entrySources patterns path names (([], Layer.ofFolder (.folder entries)) :: layers) entries

def entrySources (patterns : List IgnoreRule) (path : String) (names : List String) (layers : Layers) :
    List (String × FileTree) → List SourceFile
  | [] => []
  | (name, tree) :: rest =>
    (if skips patterns (names ++ [name]) name (layers.descend name) tree.isFolder then []
    else sources patterns (joined path name) (names ++ [name]) (layers.descend name) tree)
      ++ entrySources patterns path names layers rest

end

end FileTree

namespace Workspace

/-- The layers of the folders above a place. -/
def layersAbove (tree : FileTree) : List String → Layers
  | [] => []
  | name :: rest =>
    let above : Layers := [(name :: rest, Layer.ofFolder tree)]
    match tree.child? name with
    | some tree => layersAbove tree rest ++ above
    | none => above

/-- The source files at a path. A file is taken as it is, whatever the rules say. -/
def sources (workspace : Workspace) (ignorePatterns : List String) (path : String) : List SourceFile :=
  match workspace.locate path with
  | .ok (names, tree) =>
    tree.sources (IgnoreRule.ofPatterns ignorePatterns) path [] (layersAbove workspace.root names)
  | .error _ => []

end Workspace

end CallPolicy
