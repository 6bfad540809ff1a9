import CallPolicy.Policy.Predicate

/-! Descriptions of contracts: trees of plain values, as a contract file is written.

A description promises nothing; it is checked against a schema before a contract is built
from it.
-/

set_option autoImplicit false

namespace CallPolicy

open Json (Value)

inductive Descriptor where
  | null
  | bool (value : Bool)
  | number (value : Binary64)
  | text (value : String)
  | list (items : List Descriptor)
  | map (entries : List (String × Descriptor))
  | predicate (test : Predicate)
  deriving Inhabited

/-- What kind of node a descriptor is. -/
inductive Shape where
  | null
  | bool
  | number
  | text
  | list
  | map
  | predicate
  deriving DecidableEq, Repr, Inhabited

def Shape.name : Shape → String
  | null => "null"
  | bool => "bool"
  | number => "number"
  | text => "string"
  | list => "list"
  | map => "map"
  | predicate => "predicate"

namespace Descriptor

def shape : Descriptor → Shape
  | null => .null
  | bool _ => .bool
  | number _ => .number
  | text _ => .text
  | list _ => .list
  | map _ => .map
  | predicate _ => .predicate

/-- A predicate is attached, or given by the name of a predicate. -/
def predicate? : Descriptor → Option Predicate
  | predicate test => some test
  | text name => Predicate.ofName? name
  | _ => none

def map? : Descriptor → Option (List (String × Descriptor))
  | map entries => some entries
  | _ => none

mutual

/-- Numbers lose the distinction between integers and doubles. -/
def ofJson : Value → Descriptor
  | .null => null
  | .bool value => bool value
  | .integer value => number (.ofInt value)
  | .float value => number value
  | .string value => text value
  | .list items => list (ofItems items)
  | .object members => map (ofMembers members)

def ofItems : List Value → List Descriptor
  | [] => []
  | value :: rest => ofJson value :: ofItems rest

def ofMembers : List (String × Value) → List (String × Descriptor)
  | [] => []
  | (key, value) :: rest => (key, ofJson value) :: ofMembers rest

end

end Descriptor

/-- The entries at the top of a description. -/
structure Description where
  entries : List (String × Descriptor)
  deriving Inhabited

namespace Description

def empty : Description := ⟨[]⟩

/-- A document that is no object describes nothing. -/
def ofJson (value : Value) : Description :=
  ⟨((Descriptor.ofJson value).map?).getD []⟩

def get? (description : Description) (key : String) : Option Descriptor :=
  Keyed.look key description.entries

/-- Set or replace an entry. -/
def set (description : Description) (key : String) (value : Descriptor) : Description :=
  ⟨Keyed.put key value description.entries⟩

/-- The section of a function, when it is a map. -/
def section? (description : Description) (function : String) : Option (List (String × Descriptor)) :=
  (description.get? function).bind (·.map?)

/-- The map under a key, empty when there is none yet; `none` when the key holds something
else. -/
def mapAt? (key : String) (entries : List (String × Descriptor)) : Option (List (String × Descriptor)) :=
  match Keyed.look key entries with
  | some value => value.map?
  | none => some []

/-- Attach a predicate to a parameter of a function, and say whether that was possible.
Sections that are missing are made. -/
def setParameter (description : Description) (function parameter : String) (predicate : Predicate) :
    Description × Bool :=
  match mapAt? function description.entries with
  | none => (description, false)
  | some spec =>
    match mapAt? "params" spec with
    | none => (description, false)
    | some parameters =>
      (description.set function
        (.map (Keyed.put "params" (.map (Keyed.put parameter (.predicate predicate) parameters)) spec)), true)

/-- Attach a predicate to what a function returns, and say whether that was possible. -/
def setReturns (description : Description) (function : String) (predicate : Predicate) :
    Description × Bool :=
  match mapAt? function description.entries with
  | none => (description, false)
  | some spec => (description.set function (.map (Keyed.put "returns" (.predicate predicate) spec)), true)

end Description

end CallPolicy
