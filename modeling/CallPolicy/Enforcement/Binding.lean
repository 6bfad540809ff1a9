import CallPolicy.Json.Value

/-! Binding of arguments to the parameters of a function. -/

set_option autoImplicit false

namespace CallPolicy

open Json (Value)

/-- A parameter without a default value is required. -/
structure Parameter where
  name : String
  default : Option Value
  deriving Inhabited

structure Arguments where
  positional : List Value
  keyword : List (String × Value)
  deriving Inhabited

inductive BindingError where
  | tooManyPositional (expected given : Nat)
  | unknownKeyword (name : String)
  | duplicate (name : String)
  | missing (name : String)
  deriving DecidableEq, Repr, Inhabited

def BindingError.message : BindingError → String
  | tooManyPositional expected given =>
    "takes " ++ toString expected ++ " positional arguments but " ++ toString given ++ " were given"
  | unknownKeyword name => "got an unexpected keyword argument `" ++ name ++ "`"
  | duplicate name => "got multiple values for argument `" ++ name ++ "`"
  | missing name => "missing a required argument: `" ++ name ++ "`"

/-- The values of the parameters, in the order of declaration. -/
abbrev Bound := List (String × Value)

namespace Arguments

/-- A parameter and the value it has so far. -/
abbrev Slot := Parameter × Option Value

/-- Positional arguments fill the first parameters. -/
def fillPositional : List Parameter → List Value → List Slot
  | [], _ => []
  | parameter :: rest, [] => (parameter, none) :: fillPositional rest []
  | parameter :: rest, value :: values => (parameter, some value) :: fillPositional rest values

/-- A keyword argument fills the first parameter of its name. -/
def fillKeyword (name : String) (value : Value) : List Slot → Except BindingError (List Slot)
  | [] => .error (.unknownKeyword name)
  | (parameter, filled) :: rest =>
    if parameter.name = name then
      match filled with
      | some _ => .error (.duplicate name)
      | none => .ok ((parameter, some value) :: rest)
    else (fillKeyword name value rest).map ((parameter, filled) :: ·)

def fillKeywords : List (String × Value) → List Slot → Except BindingError (List Slot)
  | [], slots => .ok slots
  | (name, value) :: rest, slots => do fillKeywords rest (← fillKeyword name value slots)

/-- Parameters without an argument take their default values. -/
def complete : List Slot → Except BindingError Bound
  | [] => .ok []
  | (parameter, filled) :: rest =>
    match filled.orElse fun _ => parameter.default with
    | some value => (complete rest).map ((parameter.name, value) :: ·)
    | none => .error (.missing parameter.name)

end Arguments

open Arguments in
def bind (parameters : List Parameter) (arguments : Arguments) : Except BindingError Bound :=
  if parameters.length < arguments.positional.length then
    .error (.tooManyPositional parameters.length arguments.positional.length)
  else do
    complete (← fillKeywords arguments.keyword (fillPositional parameters arguments.positional))

end CallPolicy
