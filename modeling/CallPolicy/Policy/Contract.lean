import CallPolicy.Distinct
import CallPolicy.Duration
import CallPolicy.Policy.Schema

/-! Contracts, and drafts of them.

A draft may be edited at will. Freezing it drops repeated declarations and refuses a
declared function without a specification, so that a contract has neither.
-/

set_option autoImplicit false

namespace CallPolicy

open Json (Value)

/-- What a contract says about one function. -/
structure FunctionSpec where
  parameters : Keyed Predicate
  returns : Predicate
  allowedCalls : Names
  allowedCallers : Names
  maxRuntimeSeconds : Binary64
  deriving Inhabited

namespace FunctionSpec

def empty : FunctionSpec where
  parameters := .empty
  returns := .any
  allowedCalls := .empty
  allowedCallers := .empty
  maxRuntimeSeconds := .zero

/-- The time that the function may take, when its time is limited. -/
def timeout (spec : FunctionSpec) : Option Duration :=
  Duration.ofSeconds? spec.maxRuntimeSeconds

end FunctionSpec

/-- A contract that may still be edited. -/
structure Draft where
  raiseOnViolation : Bool
  declaredFunctions : List String
  allowedImports : Names
  globalAllowedCalls : Names
  specs : Keyed FunctionSpec
  deriving Inhabited

/-- A draft that declares no function twice and specifies each one it declares. -/
structure Contract extends Draft where
  declared_nodup : declaredFunctions.Nodup
  declared_specified : ∀ function ∈ declaredFunctions, specs.contains function = true

namespace Draft

def empty : Draft where
  raiseOnViolation := false
  declaredFunctions := []
  allowedImports := .empty
  globalAllowedCalls := .empty
  specs := .empty

/-- Check the declarations, after which nothing can be edited. -/
def freeze (draft : Draft) : Except SchemaError Contract :=
  -- The result of the search is kept: it is what makes the new contract well formed.
  match found : (distinct draft.declaredFunctions).find? fun function => !draft.specs.contains function with
  | some function => .error (.missingSpec function)
  | none => .ok
    { draft with
      declaredFunctions := distinct draft.declaredFunctions
      declared_nodup := nodup_distinct _
      declared_specified := by simpa using List.find?_eq_none.1 found }

end Draft

namespace Contract

instance : Inhabited Contract :=
  ⟨{ Draft.empty with declared_nodup := List.Pairwise.nil, declared_specified := by simp [Draft.empty] }⟩

def isDeclared (contract : Contract) (function : String) : Bool :=
  contract.declaredFunctions.contains function

def spec? (contract : Contract) (function : String) : Option FunctionSpec :=
  contract.specs.get? function

/-- A call is allowed to all functions, or to this one. -/
def isCallAllowed (contract : Contract) (function call : String) : Bool :=
  contract.globalAllowedCalls.contains call
    || (contract.spec? function).any (·.allowedCalls.contains call)

def isImportAllowed (contract : Contract) (moduleName : String) : Bool :=
  contract.allowedImports.contains moduleName

/-- The contract with an edited draft. -/
def revise (contract : Contract) (change : Draft → Draft) : Except SchemaError Contract :=
  (change contract.toDraft).freeze

end Contract

end CallPolicy
