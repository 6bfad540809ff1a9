import CallPolicy.Json.Value

/-! Breaches of a contract, and the outcomes of guarded calls. -/

set_option autoImplicit false

namespace CallPolicy

open Json (Value)

/-- Every kind of breach, those that only the static analysis reports included. -/
inductive ViolationKind where
  | schemaInvalid
  | functionNotDeclared
  | callNotAllowed
  | importNotAllowed
  | callerNotAllowed
  | unboundParameters
  | parameterNotDeclared
  | parameterInvalid
  | returnInvalid
  | timeoutExceeded
  | undeclaredFunction
  | undefinedFunction
  | undecoratedClass
  deriving DecidableEq, Repr, Inhabited

namespace ViolationKind

def name : ViolationKind → String
  | schemaInvalid => "schema_invalid"
  | functionNotDeclared => "function_not_declared"
  | callNotAllowed => "call_not_allowed"
  | importNotAllowed => "import_not_allowed"
  | callerNotAllowed => "caller_not_allowed"
  | unboundParameters => "unbound_parameters"
  | parameterNotDeclared => "param_not_declared"
  | parameterInvalid => "param_invalid"
  | returnInvalid => "return_invalid"
  | timeoutExceeded => "timeout_exceeded"
  | undeclaredFunction => "undeclared_function"
  | undefinedFunction => "undefined_function"
  | undecoratedClass => "undecorated_class"

def all : List ViolationKind :=
  [schemaInvalid, functionNotDeclared, callNotAllowed, importNotAllowed, callerNotAllowed,
    unboundParameters, parameterNotDeclared, parameterInvalid, returnInvalid, timeoutExceeded,
    undeclaredFunction, undefinedFunction, undecoratedClass]

def ofName? (name : String) : Option ViolationKind :=
  all.find? (·.name == name)

end ViolationKind

/-- A breach that stops one guarded call. -/
inductive Violation where
  | functionNotDeclared (function : String)
  | callNotAllowed (function call : String)
  | callerNotAllowed (function caller : String)
  | unboundParameters (function reason : String)
  | parameterNotDeclared (function parameter : String)
  | parameterInvalid (function parameter expected : String)
  | returnInvalid (function value expected : String)
  | timeoutExceeded (function : String) (limitSeconds : Binary64)
  deriving DecidableEq, Repr, Inhabited

namespace Violation

def kind : Violation → ViolationKind
  | functionNotDeclared .. => .functionNotDeclared
  | callNotAllowed .. => .callNotAllowed
  | callerNotAllowed .. => .callerNotAllowed
  | unboundParameters .. => .unboundParameters
  | parameterNotDeclared .. => .parameterNotDeclared
  | parameterInvalid .. => .parameterInvalid
  | returnInvalid .. => .returnInvalid
  | timeoutExceeded .. => .timeoutExceeded

/-- The function whose call was stopped. -/
def function : Violation → String
  | functionNotDeclared function | callNotAllowed function _ | callerNotAllowed function _
  | unboundParameters function _ | parameterNotDeclared function _ | parameterInvalid function _ _
  | returnInvalid function _ _ | timeoutExceeded function _ => function

def message : Violation → String
  | functionNotDeclared function => "function `" ++ function ++ "` not declared in contract"
  | callNotAllowed function call =>
    "function `" ++ function ++ "` trying to call `" ++ call ++ "` which is not allowed by the contract"
  | callerNotAllowed function caller =>
    "caller `" ++ caller ++ "` not allowed to call this function (`" ++ function ++ "`)"
  | unboundParameters function reason =>
    "unable to bind passed-in parameters for `" ++ function ++ "`: " ++ reason
  | parameterNotDeclared function parameter =>
    "parameter `" ++ parameter ++ "` used but not defined in contract for `" ++ function ++ "`"
  | parameterInvalid function parameter expected =>
    "parameter `" ++ parameter ++ "` of `" ++ function ++ "` out of contract specification (expected "
      ++ expected ++ ")"
  | returnInvalid function value expected =>
    "return value `" ++ value ++ "` of `" ++ function ++ "` does not match contract (expected "
      ++ expected ++ ")"
  | timeoutExceeded function limitSeconds =>
    "function `" ++ function ++ "` terminated due to time constraint violation ("
      ++ String.ofList limitSeconds.messageText ++ "s)"

end Violation

/-- What a guarded call gives: the value returned, or the violation that stopped the call. -/
inductive Outcome where
  | ok (value : Value)
  | violated (violation : Violation)
  deriving Repr, Inhabited

namespace Outcome

def isOk : Outcome → Bool
  | ok _ => true
  | violated _ => false

def value? : Outcome → Option Value
  | ok value => some value
  | violated _ => none

def violation? : Outcome → Option Violation
  | ok _ => none
  | violated violation => some violation

end Outcome

end CallPolicy
