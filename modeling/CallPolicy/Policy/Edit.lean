import CallPolicy.Policy.Contract

/-! Edits of drafts. -/

set_option autoImplicit false

namespace CallPolicy

/-- A change of one function's specification. -/
inductive SpecEdit where
  | allowCall (call : String)
  | denyCall (call : String)
  | allowCaller (caller : String)
  | denyCaller (caller : String)
  | parameter (name : String) (predicate : Predicate)
  | dropParameter (name : String)
  | returns (predicate : Predicate)
  | maxRuntimeSeconds (seconds : Binary64)

def SpecEdit.apply (spec : FunctionSpec) : SpecEdit → FunctionSpec
  | allowCall call => { spec with allowedCalls := Names.add spec.allowedCalls call }
  | denyCall call => { spec with allowedCalls := Names.remove spec.allowedCalls call }
  | allowCaller caller => { spec with allowedCallers := Names.add spec.allowedCallers caller }
  | denyCaller caller => { spec with allowedCallers := Names.remove spec.allowedCallers caller }
  | parameter name predicate => { spec with parameters := spec.parameters.insert name predicate }
  | dropParameter name => { spec with parameters := spec.parameters.erase name }
  | returns predicate => { spec with returns := predicate }
  | maxRuntimeSeconds seconds => { spec with maxRuntimeSeconds := seconds }

inductive Edit where
  | raise (on : Bool)
  /-- Specify a function, and declare it unless it is declared. -/
  | declare (function : String) (spec : FunctionSpec)
  /-- Declare a function, be it again. -/
  | push (function : String)
  | undeclare (function : String)
  | putSpec (function : String) (spec : FunctionSpec)
  | dropSpec (function : String)
  | allowImport (moduleName : String)
  | denyImport (moduleName : String)
  | allowGlobal (call : String)
  | denyGlobal (call : String)
  /-- Change a specification; nothing happens when there is none. -/
  | spec (function : String) (edit : SpecEdit)

namespace Draft

def declare (draft : Draft) (function : String) (spec : FunctionSpec) : Draft :=
  { draft with
    declaredFunctions :=
      if draft.declaredFunctions.contains function then draft.declaredFunctions
      else draft.declaredFunctions ++ [function]
    specs := draft.specs.insert function spec }

def applyEdit (draft : Draft) : Edit → Draft
  | .raise on => { draft with raiseOnViolation := on }
  | .declare function spec => draft.declare function spec
  | .push function => { draft with declaredFunctions := draft.declaredFunctions ++ [function] }
  | .undeclare function =>
    { draft with declaredFunctions := draft.declaredFunctions.filter (· != function) }
  | .putSpec function spec => { draft with specs := draft.specs.insert function spec }
  | .dropSpec function => { draft with specs := draft.specs.erase function }
  | .allowImport moduleName => { draft with allowedImports := Names.add draft.allowedImports moduleName }
  | .denyImport moduleName => { draft with allowedImports := Names.remove draft.allowedImports moduleName }
  | .allowGlobal call => { draft with globalAllowedCalls := Names.add draft.globalAllowedCalls call }
  | .denyGlobal call => { draft with globalAllowedCalls := Names.remove draft.globalAllowedCalls call }
  | .spec function edit => { draft with specs := draft.specs.modify function fun spec => edit.apply spec }

def applyEdits (draft : Draft) (edits : List Edit) : Draft :=
  edits.foldl applyEdit draft

end Draft

/-- The contract after a list of edits. -/
def Contract.reviseBy (contract : Contract) (edits : List Edit) : Except SchemaError Contract :=
  contract.revise (·.applyEdits edits)

end CallPolicy
