import CallPolicy.CallGraph.Constructs
import CallPolicy.Syntax.PythonGrammar
import CallPolicy.Syntax.RustGrammar

/-! Call graphs and outlines of source units. -/

set_option autoImplicit false

namespace CallPolicy

open Syntax

inductive ExtractionError where
  | syntaxError (language : Language) (line : Nat)
  | functionNotFound (name : String) (language : Language)
  deriving DecidableEq, Repr, Inhabited

def ExtractionError.message : ExtractionError → String
  | .syntaxError language line => language.name ++ " syntax error near line " ++ toString line
  | .functionNotFound name language => "no definition of `" ++ name ++ "` found in " ++ language.name ++ " source"

def parse (unit : SourceUnit) : Node :=
  match unit.language with
  | .python => Python.parse unit.text.toList
  | .rust => Rust.parse unit.text.toList

/-- The tree of a unit without errors. -/
def checkedTree (unit : SourceUnit) : Except ExtractionError Node :=
  let tree := parse unit
  match tree.firstErrorLine with
  | some line => .error (.syntaxError unit.language line)
  | none => .ok tree

/-- The calls and imports of a subtree. -/
def collect (constructs : Constructs) (root : Node) : CallGraph :=
  let nodes := (Place.all root).map (·.node)
  { calls := nodes.flatMap fun node => ((constructs.callTarget node).map fun name => ⟨name, node.line⟩).toList
    imports := nodes.flatMap fun node => (constructs.imports node).map fun moduleName => ⟨moduleName, node.line⟩ }

def extractTree (constructs : Constructs) (tree : Node) : CallGraph :=
  collect constructs tree

/-- The graph of the first function of a name in a tree. -/
def extractFunctionTree (constructs : Constructs) (tree : Node) (name : String) : Option CallGraph :=
  ((Place.all tree).find? fun place => constructs.functionName place.node == some name).map fun place =>
    collect constructs (constructs.extent place)

/-- Places that are not inside a function. -/
def outlinePlaces (constructs : Constructs) (tree : Node) : List Place :=
  Place.reached (fun place => (constructs.functionName place.node).isNone) tree

def outlineTree (constructs : Constructs) (tree : Node) : ModuleOutline :=
  let places := outlinePlaces constructs tree
  { functions := places.filterMap fun place =>
      (constructs.functionName place.node).map fun name =>
        ⟨name, place.node.line, collect constructs (constructs.extent place)⟩
    classes := places.filterMap fun place =>
      if (constructs.functionName place.node).isSome then none
      else (constructs.className place.node).map fun name =>
        ⟨name, place.node.line, constructs.classMarkers place⟩
    imports := places.flatMap fun place =>
      if (constructs.functionName place.node).isSome then []
      else (constructs.imports place.node).map fun moduleName => ⟨moduleName, place.node.line⟩ }

/-- Every call and import of a unit. -/
def extract (unit : SourceUnit) : Except ExtractionError CallGraph :=
  (checkedTree unit).map (extractTree unit.language.constructs)

/-- The calls and imports of the first function of a name. -/
def extractFunction (unit : SourceUnit) (name : String) : Except ExtractionError CallGraph := do
  let tree ← checkedTree unit
  match extractFunctionTree unit.language.constructs tree name with
  | some graph => .ok graph
  | none => .error (.functionNotFound name unit.language)

/-- The functions of a unit that are not inside another, its classes, and its imports
outside functions. -/
def outline (unit : SourceUnit) : Except ExtractionError ModuleOutline :=
  (checkedTree unit).map (outlineTree unit.language.constructs)

end CallPolicy
