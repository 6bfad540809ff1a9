import CallPolicy.Policy.Description

/-! Schemas: the keys that a description must have, and of what kind.

Validation stops at the first defect. The global keys come first, then the list of
functions, then the functions in the order of the list.
-/

set_option autoImplicit false

namespace CallPolicy

/-- What a schema may ask of an entry. -/
inductive Kind where
  | bool
  | number
  | string
  | list
  | map
  | predicate
  deriving DecidableEq, Repr, Inhabited

namespace Kind

def name : Kind → String
  | bool => "bool"
  | number => "number"
  | string => "string"
  | list => "list"
  | map => "map"
  | predicate => "predicate"

def ofName? : String → Option Kind
  | "bool" => some bool
  | "number" => some number
  | "string" => some string
  | "list" => some list
  | "map" => some map
  | "predicate" => some predicate
  | _ => none

/-- The name of a predicate is both a string and a predicate. -/
def admits : Kind → Descriptor → Bool
  | bool, value => value.shape == .bool
  | number, value => value.shape == .number
  | string, value => value.shape == .text
  | list, value => value.shape == .list
  | map, value => value.shape == .map
  | predicate, value => value.predicate?.isSome

theorem ofName?_name (kind : Kind) : ofName? kind.name = some kind := by
  cases kind <;> decide +kernel

end Kind

/-- What is wrong with an entry whose contents no schema describes. -/
inductive EntryDefect where
  | notFunctionName (found : Shape)
  | notMap
  | notPredicate (found : Shape)
  | notFiniteNumber (found : Shape)
  | notList (found : Shape)
  | notStrings (found : Shape)
  deriving DecidableEq, Repr, Inhabited

def EntryDefect.reason : EntryDefect → String
  | notFunctionName found => "expected function name, found " ++ found.name
  | notMap => "expected a map"
  | notPredicate found => "expected a predicate, found " ++ found.name
  | notFiniteNumber found => "expected a finite number, found " ++ found.name
  | notList found => "expected a list, found " ++ found.name
  | notStrings found => "expected strings, found " ++ found.name

/-- Why a description makes no contract, or a reference no schema. -/
inductive SchemaError where
  | globalKey (key : String) (expected : Kind) (found : Option Shape)
  | missingSpec (function : String)
  | functionKey (function key : String) (expected : Kind) (found : Option Shape)
  | invalidEntry (path : String) (defect : EntryDefect)
  | unknownSchema (reference : String)
  | unreadable
  deriving DecidableEq, Repr, Inhabited

def foundName : Option Shape → String
  | some shape => shape.name
  | none => "nothing"

def SchemaError.message : SchemaError → String
  | globalKey key expected found =>
    "either `" ++ key ++ "` not in contract or not instance of `" ++ expected.name
      ++ "` (found " ++ foundName found ++ ")"
  | missingSpec function => "the function `" ++ function ++ "` declared in functions but not defined"
  | functionKey function key expected found =>
    "either `" ++ key ++ "` not in contract['" ++ function ++ "'] or not instance of `" ++ expected.name
      ++ "` (found " ++ foundName found ++ ")"
  | invalidEntry path defect => "invalid entry in `" ++ path ++ "`: " ++ defect.reason
  | unknownSchema reference => "unknown schema `" ++ reference ++ "`"
  | unreadable => "failed to load schema"

/-- The kinds of the keys of a contract and of each function's section. -/
structure Schema where
  version : String
  globals : Keyed Kind
  functions : Keyed Kind
  deriving DecidableEq, Inhabited

namespace Schema

/-- The key of the ordered list of declared functions. -/
def functionsKey : String := "functions"

def v1 : Schema where
  version := "v1"
  globals := .ofList [("raise_on_contract_exception", .bool), ("allowable_imports", .list),
    ("global_allowed_calls", .list), (functionsKey, .list)]
  functions := .ofList [("params", .map), ("returns", .predicate), ("allowable_calls", .list),
    ("max_runtime_seconds", .number), ("allowed_callers", .list)]

def byName (name : String) : Except SchemaError Schema :=
  if name = "v1" then .ok v1 else .error (.unknownSchema name)

/-- The first required key that is missing or of another kind, with what is there. -/
def firstMismatch (required : List (String × Kind)) (look : String → Option Descriptor) :
    Option (String × Kind × Option Shape) :=
  match required with
  | [] => none
  | (key, kind) :: rest =>
    match look key with
    | some value => if kind.admits value then firstMismatch rest look else some (key, kind, some value.shape)
    | none => some (key, kind, none)

/-- Check the section of one listed function. -/
def validateFunction (schema : Schema) (description : Description) (entry : Descriptor) :
    Except SchemaError Unit :=
  match entry with
  | .text function =>
    match description.section? function with
    | none => .error (.missingSpec function)
    | some spec =>
      match firstMismatch schema.functions.entries (Keyed.look · spec) with
      | some (key, expected, found) => .error (.functionKey function key expected found)
      | none => .ok ()
  | other => .error (.invalidEntry functionsKey (.notFunctionName other.shape))

def validateFunctions (schema : Schema) (description : Description) :
    List Descriptor → Except SchemaError Unit
  | [] => .ok ()
  | entry :: rest => do
    schema.validateFunction description entry
    schema.validateFunctions description rest

def validate (schema : Schema) (description : Description) : Except SchemaError Unit :=
  match firstMismatch schema.globals.entries description.get? with
  | some (key, expected, found) => .error (.globalKey key expected found)
  | none =>
    match description.get? functionsKey with
    | some (.list entries) => schema.validateFunctions description entries
    | some other => .error (.globalKey functionsKey .list (some other.shape))
    | none => .ok ()

end Schema

end CallPolicy
