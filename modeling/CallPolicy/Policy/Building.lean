import CallPolicy.Policy.Contract

/-! Building contracts from descriptions. -/

set_option autoImplicit false

namespace CallPolicy

namespace Description

/-- The texts of a list; an absent one is empty. -/
def texts (path : String) : Option Descriptor → Except SchemaError (List String)
  | none => .ok []
  | some (.list items) =>
    items.mapM fun item =>
      match item with
      | .text name => .ok name
      | other => .error (.invalidEntry path (.notStrings other.shape))
  | some other => .error (.invalidEntry path (.notList other.shape))

def predicate (path : String) (value : Descriptor) : Except SchemaError Predicate :=
  match value.predicate? with
  | some predicate => .ok predicate
  | none => .error (.invalidEntry path (.notPredicate value.shape))

def parameters (function : String) : Option Descriptor → Except SchemaError (Keyed Predicate)
  | none => .ok .empty
  | some value =>
    match value.map? with
    | none => .error (.invalidEntry (function ++ ".params") .notMap)
    | some entries => do
      let parameters ← entries.mapM fun entry => do
        let predicate ← predicate (function ++ ".params." ++ entry.1) entry.2
        return (entry.1, predicate)
      return .ofList parameters

def returns (function : String) : Option Descriptor → Except SchemaError Predicate
  | none => .ok .any
  | some value => predicate (function ++ ".returns") value

def maxRuntimeSeconds (function : String) : Option Descriptor → Except SchemaError Binary64
  | none => .ok .zero
  | some (.number seconds) =>
    if seconds.isFinite then .ok seconds
    else .error (.invalidEntry (function ++ ".max_runtime_seconds") (.notFiniteNumber .number))
  | some other => .error (.invalidEntry (function ++ ".max_runtime_seconds") (.notFiniteNumber other.shape))

/-- The specification that a section describes. -/
def functionSpec (function : String) (entries : List (String × Descriptor)) :
    Except SchemaError FunctionSpec := do
  let parameters ← parameters function (Keyed.look "params" entries)
  let returns ← returns function (Keyed.look "returns" entries)
  let maxRuntimeSeconds ← maxRuntimeSeconds function (Keyed.look "max_runtime_seconds" entries)
  let calls ← texts (function ++ ".allowable_calls") (Keyed.look "allowable_calls" entries)
  let callers ← texts (function ++ ".allowed_callers") (Keyed.look "allowed_callers" entries)
  return {
    parameters, returns, maxRuntimeSeconds
    allowedCalls := .ofList calls
    allowedCallers := .ofList callers }

def listedSpec (description : Description) (function : String) :
    Except SchemaError (String × FunctionSpec) :=
  match description.section? function with
  | none => .error (.missingSpec function)
  | some entries => (functionSpec function entries).map fun spec => (function, spec)

/-- Violations are raised unless the description says otherwise. -/
def raiseOnViolation (description : Description) : Bool :=
  match description.get? "raise_on_contract_exception" with
  | some (.bool value) => value
  | _ => true

def draft (description : Description) : Except SchemaError Draft := do
  let declaredFunctions ← texts Schema.functionsKey (description.get? Schema.functionsKey)
  let specs ← declaredFunctions.mapM description.listedSpec
  let imports ← texts "allowable_imports" (description.get? "allowable_imports")
  let calls ← texts "global_allowed_calls" (description.get? "global_allowed_calls")
  return {
    raiseOnViolation := description.raiseOnViolation
    declaredFunctions
    allowedImports := .ofList imports
    globalAllowedCalls := .ofList calls
    specs := .ofList specs }

end Description

/-- Validate a description and build its contract. -/
def Contract.ofDescription (schema : Schema) (description : Description) :
    Except SchemaError Contract := do
  schema.validate description
  (← description.draft).freeze

end CallPolicy
