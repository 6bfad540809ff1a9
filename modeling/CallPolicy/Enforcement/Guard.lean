import CallPolicy.Enforcement.Isolation
import CallPolicy.Policy.Contract

/-! Guarded calls.

Checks come in a fixed order, and the first that fails stops the call: the function is
declared; its source can be read, and calls only what is allowed; the caller is allowed;
the arguments bind; each bound parameter is in the contract; each value passes its
predicate. Then the body runs, in a worker when its time is limited, and the value that it
returns is checked.
-/

set_option autoImplicit false

namespace CallPolicy

open Json (Value)

inductive Caller where
  /-- Code outside all functions. -/
  | module
  | function (name : String)
  deriving DecidableEq, Repr, Inhabited

namespace Caller

/-- What contracts call the code outside all functions. -/
def moduleIdentifier : String := "<module>"

/-- The name under which a contract allows a caller. -/
def identifier : Caller → String
  | module => moduleIdentifier
  | function name => name

end Caller

/-- As whom a body calls other functions. -/
def Invocation.caller (invocation : Invocation) : Caller :=
  .function invocation.function

namespace Contract

/-- The specification of a declared function. -/
def declaredSpec? (contract : Contract) (function : String) : Option FunctionSpec :=
  if contract.isDeclared function then contract.spec? function else none

/-- The first call in a graph that a function may not make. -/
def firstRefusedCall (contract : Contract) (function : String) (graph : CallGraph) : Option String :=
  graph.callNames.find? fun call => !contract.isCallAllowed function call

end Contract

namespace FunctionSpec

/-- The first bound parameter that is not specified. -/
def firstUndeclared (spec : FunctionSpec) (bound : Bound) : Option String :=
  (bound.find? fun entry => !spec.parameters.contains entry.1).map (·.1)

/-- The first bound parameter whose value fails its predicate, with that predicate. -/
def firstInvalid (spec : FunctionSpec) : Bound → Option (String × Predicate)
  | [] => none
  | (parameter, value) :: rest =>
    match spec.parameters.get? parameter with
    | some predicate => if predicate.accepts value then spec.firstInvalid rest else some (parameter, predicate)
    | none => spec.firstInvalid rest

end FunctionSpec

namespace GovernedFunction

/-- The checks of the arguments. -/
def checkArguments (function : GovernedFunction) (spec : FunctionSpec) (arguments : Arguments) :
    Except Violation Bound :=
  match bind function.parameters arguments with
  | .error error => .error (.unboundParameters function.name error.message)
  | .ok bound =>
    match spec.firstUndeclared bound with
    | some parameter => .error (.parameterNotDeclared function.name parameter)
    | none =>
      match spec.firstInvalid bound with
      | some (parameter, predicate) => .error (.parameterInvalid function.name parameter predicate.name)
      | none => .ok bound

/-- The checks of calls, caller and arguments, for a call graph that is known. -/
def checkCall (function : GovernedFunction) (contract : Contract) (spec : FunctionSpec) (graph : CallGraph)
    (caller : Caller) (arguments : Arguments) : Except Violation Bound :=
  match contract.firstRefusedCall function.name graph with
  | some call => .error (.callNotAllowed function.name call)
  | none =>
    if spec.allowedCallers.contains caller.identifier then function.checkArguments spec arguments
    else .error (.callerNotAllowed function.name caller.identifier)

/-- All checks before the body, and the cache after the search for the call graph. -/
def check (function : GovernedFunction) (contract : Contract) (caller : Caller) (arguments : Arguments)
    (cache : Cache) : Except CallError (FunctionSpec × Bound) × Cache :=
  match contract.declaredSpec? function.name with
  | none => (.error (.violation (.functionNotDeclared function.name)), cache)
  | some spec =>
    match cache.functionGraph function.source function.name with
    | (.error error, cache) => (.error (.source error), cache)
    | (.ok graph, cache) =>
      match function.checkCall contract spec graph caller arguments with
      | .error violation => (.error (.violation violation), cache)
      | .ok bound => (.ok (spec, bound), cache)

/-- What the end of a worker says of the call that it was for. -/
def received (function : GovernedFunction) (spec : FunctionSpec) : Except WorkerError Timed → Except CallError Value
  | .error error => .error (.worker error)
  | .ok .expired => .error (.violation (.timeoutExceeded function.name spec.maxRuntimeSeconds))
  | .ok (.finished result) => result.mapError .function

/-- Run the body of a call that passed its checks, in a worker when its time is limited. A worker
starts no other worker: it waits for one without end. -/
def execute (function : GovernedFunction) (spec : FunctionSpec) (bound : Bound) (isolated : Bool) (caller : Caller)
    (call : Bool → Caller → String → Arguments → Memory → Option (Ran Reply)) (memory : Memory) :
    Ran (Except CallError Value) :=
  let invocation : Invocation := ⟨function.name, bound⟩
  let start : Start := ⟨function.name, caller.identifier, bound⟩
  match spec.timeout with
  | none =>
    (((function.body invocation).run isolated (call isolated invocation.caller) memory).map
      (·.mapError .function)).after 0 [start]
  | some limit =>
    -- This process was forked while the lock for starting workers was held, and nobody here lets go of it.
    if isolated then .stop .stalled memory
    else
      ((((function.body invocation).run true (call true invocation.caller) memory).isolate limit memory).map
        (function.received spec)).after 0 [start]

/-- The check of what the body returns. -/
def checkResult (function : GovernedFunction) (spec : FunctionSpec) (value : Value) : Except CallError Value :=
  if spec.returns.accepts value then .ok value
  else .error (.violation (.returnInvalid function.name value.compactText spec.returns.name))

/-- A violation is raised, or wrapped in an outcome, as the contract says. -/
def deliver (contract : Contract) : Except CallError Value → Reply
  | .ok value => .ok (.ok value)
  | .error (.violation violation) =>
    if contract.raiseOnViolation then .error (.violation violation) else .ok (.violated violation)
  | .error error => .error error

/-- A guarded call, given how to answer the calls that the body makes. -/
def callWith (function : GovernedFunction) (contract : Contract) (isolated : Bool)
    (call : Bool → Caller → String → Arguments → Memory → Option (Ran Reply))
    (caller : Caller) (arguments : Arguments) (memory : Memory) : Ran Reply :=
  match function.check contract caller arguments memory.cache with
  | (.error error, cache) => .stop (.delivered (deliver contract (.error error))) { memory with cache }
  | (.ok (spec, bound), cache) =>
    (function.execute spec bound isolated caller call { memory with cache }).map fun result =>
      deliver contract (result.bind (function.checkResult spec))

end GovernedFunction

/-- Governed functions by name, under one contract. -/
structure Guards where
  contract : Contract
  functions : Keyed GovernedFunction

namespace Guards

/-- Call a function, if there is one of that name. Calls that nest deeper than the given
depth end their process, as a full stack does. -/
def call (guards : Guards) : Nat → Bool → Caller → String → Arguments → Memory → Option (Ran Reply)
  | 0, _, _, name, _, memory => (guards.functions.get? name).map fun _ => .stop .exited memory
  | depth + 1, isolated, caller, name, arguments, memory =>
    (guards.functions.get? name).map fun function =>
      function.callWith guards.contract isolated (guards.call depth) caller arguments memory

/-- The same functions under another contract. -/
def rebind (guards : Guards) (contract : Contract) : Guards :=
  { guards with contract }

end Guards

end CallPolicy
