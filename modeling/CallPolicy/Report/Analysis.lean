import CallPolicy.CallGraph.Extraction
import CallPolicy.Policy.Contract
import CallPolicy.Report.Basic

/-! Static analysis: every place where a module departs from a contract.

Nothing is executed. The functions are those that are not inside another one; their calls
and imports include those of the functions inside them.
-/

set_option autoImplicit false

namespace CallPolicy

namespace Analysis

/-- The marker of governed classes, where no other is given. -/
def standardMarker : String := "enforce_contract"

def undeclared (contract : Contract) (outline : ModuleOutline) : List ViolationRecord :=
  (outline.functions.filter fun function => !contract.isDeclared function.name).map fun function =>
    ⟨.undeclaredFunction, some function.line, function.name, none⟩

/-- The functions that the contract declares. -/
def governed (contract : Contract) (outline : ModuleOutline) : List FunctionOutline :=
  outline.functions.filter fun function => contract.isDeclared function.name

/-- The calls of a declared function that it may not make. -/
def refusedCalls (contract : Contract) (function : FunctionOutline) : List ViolationRecord :=
  (function.graph.calls.filter fun call => !contract.isCallAllowed function.name call.name).map fun call =>
    ⟨.call, some call.line, call.name, some function.name⟩

def permittedCalls (contract : Contract) (function : FunctionOutline) : List String :=
  function.graph.callNames.filter fun name => contract.isCallAllowed function.name name

/-- The permitted calls by function, in order of first use. Functions of one name are
taken together. -/
def callGraph (contract : Contract) (outline : ModuleOutline) : Keyed (List String) :=
  (governed contract outline).foldl (fun graph function =>
    graph.insert function.name
      (distinct ((graph.get? function.name).getD [] ++ permittedCalls contract function))) .empty

/-- The imports of a module in the order of their lines. -/
def importSites (outline : ModuleOutline) : List ImportSite :=
  (outline.imports ++ outline.functions.flatMap (·.graph.imports)).mergeSort fun first second =>
    first.line ≤ second.line

def refusedImports (contract : Contract) (outline : ModuleOutline) : List ViolationRecord :=
  ((importSites outline).filter fun site => !contract.isImportAllowed site.moduleName).map fun site =>
    ⟨.importing, some site.line, site.moduleName, none⟩

/-- The declared functions that have no definition. -/
def undefined (contract : Contract) (outline : ModuleOutline) : List ViolationRecord :=
  (contract.declaredFunctions.filter fun name => !(outline.functions.map (·.name)).contains name).map
    fun name => ⟨.undefinedFunction, none, name, none⟩

def undecorated (marker : String) (outline : ModuleOutline) : List ViolationRecord :=
  (outline.classes.filter fun entry => !entry.markers.contains marker).map fun entry =>
    ⟨.undecoratedClass, some entry.line, entry.name, none⟩

def report (contract : Contract) (marker : String) (outline : ModuleOutline) : ViolationReport :=
  { ViolationReport.empty.recordAll
      (undeclared contract outline ++ (governed contract outline).flatMap (refusedCalls contract)
        ++ refusedImports contract outline ++ undefined contract outline ++ undecorated marker outline) with
    callGraph := callGraph contract outline }

end Analysis

/-- The findings in a unit; it must have no syntax errors. -/
def analyze (contract : Contract) (marker : String) (unit : SourceUnit) :
    Except ExtractionError ViolationReport :=
  (outline unit).map (Analysis.report contract marker)

end CallPolicy
