import CallPolicy.Documents.Enforcement
import CallPolicy.Enforcement.Program

/-! Time-limited runs in isolated workers.

A worker reports its result as one JSON text. It is stopped at its deadline, if that ever
arrives. Nothing that it does to memory outlives it.
-/

set_option autoImplicit false

namespace CallPolicy

open Json (Value)

/-- What became of a body within its time. -/
inductive Timed where
  | finished (result : Except FunctionError Value)
  | expired

namespace WorkerReport

/-- The byte at which brackets nest deeper than the limit, the first byte being one. A
string in the text is passed over. -/
def deepColumn (inString : Bool) (depth column : Nat) : List Char → Nat
  | [] => column
  | '\\' :: c :: rest => deepColumn inString depth (column + 1 + c.utf8Size) rest
  | c :: rest =>
    if inString then deepColumn (c != '"') depth (column + c.utf8Size) rest
    else if c = '"' then deepColumn true depth (column + 1) rest
    else if c = '[' || c = '\x7b' then
      if Json.depthLimit ≤ depth then column + 1 else deepColumn false (depth + 1) (column + 1) rest
    else if c = ']' || c = '\x7d' then deepColumn false (depth - 1) (column + 1) rest
    else deepColumn false depth (column + c.utf8Size) rest

/-- Send a report as text, and read it. -/
def transmit (report : WorkerReport) : Except WorkerError WorkerReport :=
  match ofText report.toJson.compactText with
  | some received => .ok received
  | none => .error (.unreadable (deepColumn false 0 0 report.toJson.compact))

/-- The report of a body's end; a process that has ended reports nothing. -/
def ofEnding : Ending (Except FunctionError Value) → Option WorkerReport
  | .delivered (.ok value) => some (.returned value)
  | .delivered (.error error) => some (.failed error)
  | .panicked message => some (.panicked (message.getD "worker panicked"))
  | .exited => none
  | .stalled => none

/-- What a received report says of the body. A panic goes on in the receiver. -/
def ending : WorkerReport → Ending (Except WorkerError Timed)
  | returned value => .delivered (.ok (.finished (.ok value)))
  | failed error => .delivered (.ok (.finished (.error error)))
  | panicked message => .panicked (some message)

end WorkerReport

namespace Ran

/-- The run of a body comes to its end before a limit. -/
def inTime (ran : Ran (Except FunctionError Value)) (limit : Duration) : Bool :=
  -- What never ends is not in time, however little time has been counted.
  match ran.ending with
  | .stalled => false
  | _ => !limit.arrives || ran.elapsed < limit.nanoseconds

/-- What comes back from a run in a worker. -/
def isolate (ran : Ran (Except FunctionError Value)) (limit : Duration) (memory : Memory) :
    Ran (Except WorkerError Timed) :=
  if ran.inTime limit then
    let ending :=
      match WorkerReport.ofEnding ran.ending with
      | none => .delivered (.error .noReport)
      | some report =>
        match report.transmit with
        | .ok received => received.ending
        | .error error => .delivered (.error error)
    ⟨ending, ran.elapsed, memory, ran.starts⟩
  else if limit.arrives then ⟨.delivered (.ok .expired), limit.nanoseconds, memory, ran.starts⟩
  -- Nobody stops a worker that has no deadline, so the wait for it has no end either.
  else ⟨.stalled, ran.elapsed, memory, ran.starts⟩

end Ran

end CallPolicy
