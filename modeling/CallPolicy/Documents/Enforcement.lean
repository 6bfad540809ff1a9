import CallPolicy.Enforcement.Violation
import CallPolicy.Enforcement.Worker
import CallPolicy.Json.Decoder

/-! JSON documents of violations, outcomes and worker reports. -/

set_option autoImplicit false

namespace CallPolicy

open Json

/-- JSON has no text for a number that is not finite. -/
def Json.Value.ofDouble (number : Binary64) : Value :=
  if number.isFinite then .float number else .null

namespace ViolationKind

def toJson (kind : ViolationKind) : Value :=
  .string kind.name

def decoder : Decoder ViolationKind :=
  Decoder.choice ofName?

end ViolationKind

namespace Violation

/-- The kind and the function come first. -/
def members (violation : Violation) (details : List (String × Value)) : Value :=
  .object (("kind", .string violation.kind.name) :: ("function", .string violation.function) :: details)

def toJson (violation : Violation) : Value :=
  violation.members (match violation with
    | functionNotDeclared _ => []
    | callNotAllowed _ call => [("call", .string call)]
    | callerNotAllowed _ caller => [("caller", .string caller)]
    | unboundParameters _ reason => [("reason", .string reason)]
    | parameterNotDeclared _ parameter => [("param", .string parameter)]
    | parameterInvalid _ parameter expected => [("param", .string parameter), ("expected", .string expected)]
    | returnInvalid _ value expected => [("value", .string value), ("expected", .string expected)]
    | timeoutExceeded _ limitSeconds => [("limit_seconds", .ofDouble limitSeconds)])

/-- The names of the fields of a kind that a guarded call can end in. -/
def fieldNames : ViolationKind → Option (List String)
  | .functionNotDeclared => some ["function"]
  | .callNotAllowed => some ["function", "call"]
  | .callerNotAllowed => some ["function", "caller"]
  | .unboundParameters => some ["function", "reason"]
  | .parameterNotDeclared => some ["function", "param"]
  | .parameterInvalid => some ["function", "param", "expected"]
  | .returnInvalid => some ["function", "value", "expected"]
  | .timeoutExceeded => some ["function", "limit_seconds"]
  | _ => none

def ofFields (kind : ViolationKind) (fields : Fields) : Option Violation := do
  let function ← fields.required "function" Decoder.text
  match kind with
  | .functionNotDeclared => return functionNotDeclared function
  | .callNotAllowed => return callNotAllowed function (← fields.required "call" Decoder.text)
  | .callerNotAllowed => return callerNotAllowed function (← fields.required "caller" Decoder.text)
  | .unboundParameters => return unboundParameters function (← fields.required "reason" Decoder.text)
  | .parameterNotDeclared => return parameterNotDeclared function (← fields.required "param" Decoder.text)
  | .parameterInvalid =>
    return parameterInvalid function (← fields.required "param" Decoder.text)
      (← fields.required "expected" Decoder.text)
  | .returnInvalid =>
    return returnInvalid function (← fields.required "value" Decoder.text)
      (← fields.required "expected" Decoder.text)
  | .timeoutExceeded => return timeoutExceeded function (← fields.required "limit_seconds" Decoder.double)
  | _ => none

/-- Split off the kind: the only member of that name, or the first item. -/
def splitKind : Document → Option (Document × Document)
  | .object members => do
    let fields ← Fields.ofMembers ["kind"] members
    let kind ← Keyed.look "kind" fields
    some (kind, .object (members.filter fun member => member.1 != some "kind"))
  | .list (kind :: rest) => some (kind, .list rest)
  | _ => none

/-- Fields of other names are passed over, but must hold values. -/
def decoder : Decoder Violation := fun depth document => do
  let (kind, rest) ← splitKind document
  let kind ← ViolationKind.ofName? (← Decoder.text depth kind)
  let names ← fieldNames kind
  Decoder.sound depth rest
  Decoder.record names (ofFields kind) depth rest

end Violation

namespace Outcome

def toJson : Outcome → Value
  | ok value => .object [("ok", value)]
  | violated violation => .object [("violated", violation.toJson)]

def decoder : Decoder Outcome
  | depth + 1, .object [(some "ok", document)] => (Decoder.value depth document).map ok
  | depth + 1, .object [(some "violated", document)] => (Violation.decoder depth document).map violated
  | _, _ => none

end Outcome

namespace FunctionError

def toJson (error : FunctionError) : Value :=
  .object [("message", .string error.message)]

def decoder : Decoder FunctionError :=
  Decoder.record ["message"] fun fields => do
    return ⟨← fields.required "message" Decoder.text⟩

end FunctionError

namespace WorkerReport

def toJson : WorkerReport → Value
  | returned value => .object [("status", .string "returned"), ("payload", value)]
  | failed error => .object [("status", .string "failed"), ("payload", error.toJson)]
  | panicked message => .object [("status", .string "panicked"), ("payload", .string message)]

inductive Status where
  | returned
  | failed
  | panicked
  deriving DecidableEq, Repr

def Status.ofName? : String → Option Status
  | "returned" => some .returned
  | "failed" => some .failed
  | "panicked" => some .panicked
  | _ => none

def payloadDecoder : Status → Decoder WorkerReport
  | .returned => fun depth document => (Decoder.value depth document).map returned
  | .failed => fun depth document => (FunctionError.decoder depth document).map failed
  | .panicked => fun depth document => (Decoder.text depth document).map panicked

/-- A payload that comes before its status must hold a value whatever it is for. -/
def payloadFirst (fields : Fields) : Bool :=
  (fields.found.head?.map (·.1)) == some "payload"

def decoder : Decoder WorkerReport :=
  Decoder.record ["status", "payload"] fun fields => do
    let status ← fields.required "status" (Decoder.choice Status.ofName?)
    -- A payload that is met before its status has to be kept for later, as a value.
    if payloadFirst fields then fields.required "payload" Decoder.sound
    fields.required "payload" (payloadDecoder status)

def ofText (text : String) : Option WorkerReport :=
  decoder.ofText text

end WorkerReport

end CallPolicy
