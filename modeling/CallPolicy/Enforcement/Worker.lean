import CallPolicy.Json.Value

/-! What an isolated worker sends back, and how it can fail to. -/

set_option autoImplicit false

namespace CallPolicy

open Json (Value)

/-- A failure of a governed function itself. It is no violation. -/
structure FunctionError where
  message : String
  deriving DecidableEq, Repr, Inhabited

inductive WorkerReport where
  | returned (value : Value)
  | failed (error : FunctionError)
  | panicked (message : String)
  deriving Repr, Inhabited

/-- What can go wrong with a worker that has been started. The system is taken to do its part: a pipe is made, a
process forked and the pipe read whenever that is asked for, so there are no errors for these, nor for a system
that has no such calls. -/
inductive WorkerError where
  /-- The worker ended without a report. -/
  | noReport
  /-- The report nests deeper than a reader allows, from the given column on. -/
  | unreadable (column : Nat)
  deriving DecidableEq, Repr, Inhabited

def WorkerError.message : WorkerError → String
  | noReport => "worker exited without reporting a result"
  | unreadable column =>
    "worker sent an unreadable result: recursion limit exceeded at line 1 column " ++ toString column

end CallPolicy
