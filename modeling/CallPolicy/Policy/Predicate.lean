import CallPolicy.Json.Value

/-! Tests of run-time values.

A predicate looks at the value that is bound or returned, never at a static type.
-/

set_option autoImplicit false

namespace CallPolicy

open Json (Value)

/-- The predicates that have a name, and tests that a program supplies under a label. -/
inductive Predicate where
  | any
  | notNull
  | null
  | string
  | number
  | float
  | integer
  | bool
  | list
  | map
  | custom (label : String) (accepts : Value → Bool)
  deriving Inhabited

namespace Predicate

/-- The predicate of a name; some have a second name. -/
def ofName? : String → Option Predicate
  | "any" => some any
  | "not_null" | "not_none" => some notNull
  | "null" | "none" => some null
  | "string" | "str" => some string
  | "number" => some number
  | "float" => some float
  | "integer" | "int" => some integer
  | "bool" => some bool
  | "list" => some list
  | "map" | "dict" => some map
  | _ => none

/-- The first name of a predicate, or its label. -/
def name : Predicate → String
  | any => "any"
  | notNull => "not_null"
  | null => "null"
  | string => "string"
  | number => "number"
  | float => "float"
  | integer => "integer"
  | bool => "bool"
  | list => "list"
  | map => "map"
  | custom label _ => label

/-- An integer is no `float`, while `number` takes both. -/
def accepts : Predicate → Value → Bool
  | any, _ => true
  | notNull, .null => false
  | notNull, _ => true
  | null, .null => true
  | string, .string _ => true
  | number, .integer _ | number, .float _ => true
  | float, .float _ => true
  | integer, .integer _ => true
  | bool, .bool _ => true
  | list, .list _ => true
  | map, .object _ => true
  | custom _ accepts, value => accepts value
  | _, _ => false

end Predicate

end CallPolicy
