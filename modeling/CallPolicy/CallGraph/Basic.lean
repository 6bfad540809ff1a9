import CallPolicy.Source

/-! Call graphs and outlines: what the analyses know about a source unit. -/

set_option autoImplicit false

namespace CallPolicy

structure CallSite where
  name : String
  line : Nat
  deriving DecidableEq, Repr, Inhabited

structure ImportSite where
  moduleName : String
  line : Nat
  deriving DecidableEq, Repr, Inhabited

/-- Calls and imports in source order. -/
structure CallGraph where
  calls : List CallSite
  imports : List ImportSite
  deriving DecidableEq, Repr, Inhabited

namespace CallGraph

def callNames (graph : CallGraph) : List String :=
  graph.calls.map (·.name)

def importNames (graph : CallGraph) : List String :=
  graph.imports.map (·.moduleName)

end CallGraph

/-- A function definition with all it calls and imports, nested scopes included. -/
structure FunctionOutline where
  name : String
  line : Nat
  graph : CallGraph
  deriving DecidableEq, Repr, Inhabited

/-- A class definition and the last segments of the decorators or attributes on it. -/
structure ClassOutline where
  name : String
  line : Nat
  markers : List String
  deriving DecidableEq, Repr, Inhabited

/-- The structure of a module; its imports are those outside all functions. -/
structure ModuleOutline where
  functions : List FunctionOutline
  classes : List ClassOutline
  imports : List ImportSite
  deriving DecidableEq, Repr, Inhabited

end CallPolicy
