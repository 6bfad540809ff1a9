import CallPolicy.CallGraph.Cache
import CallPolicy.Duration
import CallPolicy.Enforcement.Binding
import CallPolicy.Enforcement.Violation
import CallPolicy.Enforcement.Worker

/-! Bodies of governed functions, as programs that act on their surroundings.

A program ends in a value, a failure or a panic, or ends its process. On the way it can
let time pass, count in memory that outlives it, ask where it runs, and call governed
functions. Running it needs an answer for each such call.
-/

set_option autoImplicit false

namespace CallPolicy

open Json (Value)

/-- Why a guarded call gives no outcome. -/
inductive CallError where
  /-- Only a contract that raises its violations does so. -/
  | violation (violation : Violation)
  | function (error : FunctionError)
  | source (error : ExtractionError)
  | worker (error : WorkerError)
  deriving DecidableEq, Repr, Inhabited

def CallError.message : CallError → String
  | violation breach => breach.message
  | function failure => failure.message
  | source failure => "cannot derive call graph: " ++ failure.message
  | worker failure => failure.message

/-- The result of a guarded call that comes back. -/
abbrev Reply := Except CallError Outcome

/-- How a piece of a run ends. -/
inductive Ending (α : Type) where
  | delivered (value : α)
  /-- The message is absent when the panic carries something else. -/
  | panicked (message : Option String)
  /-- The process ends without a word. -/
  | exited
  /-- The end never comes. -/
  | stalled
  deriving Inhabited

/-- Change what is delivered. -/
def Ending.map {α β : Type} (change : α → β) : Ending α → Ending β
  | delivered value => .delivered (change value)
  | panicked message => .panicked message
  | exited => .exited
  | stalled => .stalled

/-- What outlives a call: the call graphs found so far, and what bodies count. -/
structure Memory where
  cache : Cache
  counter : Nat
  deriving DecidableEq, Inhabited

def Memory.empty : Memory :=
  ⟨.empty, 0⟩

/-- A body that is started, by whom, and with which arguments. -/
structure Start where
  function : String
  caller : String
  bound : Bound

/-- A finished piece of a run. A worker that is stopped may not have come to start all the
bodies that are listed. -/
structure Ran (α : Type) where
  ending : Ending α
  elapsed : Nat
  memory : Memory
  starts : List Start
  deriving Inhabited

namespace Ran

variable {α β : Type}

/-- An end at once. -/
def stop (ending : Ending α) (memory : Memory) : Ran α :=
  ⟨ending, 0, memory, []⟩

/-- A run, after some time in which bodies were started. -/
def after (ran : Ran α) (elapsed : Nat) (starts : List Start) : Ran α :=
  { ran with elapsed := elapsed + ran.elapsed, starts := starts ++ ran.starts }

/-- A run that delivers something else. -/
def map (change : α → β) (ran : Ran α) : Ran β :=
  ⟨ran.ending.map change, ran.elapsed, ran.memory, ran.starts⟩

/-- Go on with what a run delivers. -/
def andThen (ran : Ran α) (next : α → Memory → Ran β) : Ran β :=
  match ran.ending with
  | .delivered value => (next value ran.memory).after ran.elapsed ran.starts
  | .panicked message => ⟨.panicked message, ran.elapsed, ran.memory, ran.starts⟩
  | .exited => ⟨.exited, ran.elapsed, ran.memory, ran.starts⟩
  | .stalled => ⟨.stalled, ran.elapsed, ran.memory, ran.starts⟩

end Ran

inductive Program where
  | done (ending : Ending (Except FunctionError Value))
  | sleep (duration : Duration) (rest : Program)
  /-- Add one to the counter, and learn the sum. -/
  | count (next : Nat → Program)
  /-- Learn whether this runs in a worker. -/
  | whereabouts (next : Bool → Program)
  /-- Call a governed function; there may be none of that name. -/
  | call (function : String) (arguments : Arguments) (next : Option Reply → Program)

namespace Program

def returned (value : Value) : Program :=
  .done (.delivered (.ok value))

def failed (message : String) : Program :=
  .done (.delivered (.error ⟨message⟩))

/-- Run a program, in a worker or not. -/
def run (isolated : Bool) (call : String → Arguments → Memory → Option (Ran Reply)) :
    Program → Memory → Ran (Except FunctionError Value)
  | .done ending, memory => .stop ending memory
  | .sleep duration rest, memory => (rest.run isolated call memory).after duration.nanoseconds []
  | .count next, memory =>
    (next (memory.counter + 1)).run isolated call { memory with counter := memory.counter + 1 }
  | .whereabouts next, memory => (next isolated).run isolated call memory
  | .call function arguments next, memory =>
    match call function arguments memory with
    | none => (next none).run isolated call memory
    | some ran => ran.andThen fun reply memory => (next (some reply)).run isolated call memory

end Program

/-- What a body sees while it runs. -/
structure Invocation where
  function : String
  bound : Bound

/-- A function under governance. Its source is what its calls are read from. -/
structure GovernedFunction where
  name : String
  parameters : List Parameter
  source : SourceUnit
  body : Invocation → Program

end CallPolicy
