import CallPolicy.Enforcement.Program

/-! Bodies of governed functions that are written as data. -/

set_option autoImplicit false

namespace CallPolicy

open Json (Value)

inductive Script where
  | const (value : Value)
  /-- The value of a parameter, null when there is none. -/
  | echo (parameter : String)
  | arguments
  /-- The sum of the arguments that are integers of 64 bits, in 64 bits. -/
  | sum
  | whoami
  | fail (message : String)
  | panic (message : String)
  /-- A panic without a message. -/
  | panicSilently
  /-- End the process when it is a worker, and fail otherwise. -/
  | exit
  | sleep (duration : Duration) (rest : Script)
  /-- A value in lists of one item. -/
  | nest (depth : Nat) (value : Value)
  | repeat (text : String) (times : Nat)
  | count
  | call (function : String) (arguments : Arguments)

namespace Script

def nested (value : Value) : Nat → Value
  | 0 => value
  | depth + 1 => .list [nested value depth]

/-- An integer that 64 bits can hold, one of them for the sign. -/
def word? : Value → Option Int
  | .integer value =>
    if -0x8000000000000000 ≤ value && value < 0x8000000000000000 then some value else none
  | _ => none

/-- The last 64 bits of an integer, one of them for the sign. -/
def wrap (value : Int) : Int :=
  value.bmod 0x10000000000000000

/-- Go on as the reply to a call says. -/
def ofReply : Option Reply → Program
  | none => .failed "no such guard"
  | some (.ok (.ok value)) => .returned value
  | some (.ok (.violated violation)) => .returned (.object [("inner_violation", .string violation.kind.name)])
  | some (.error error) => .failed error.message

def program (invocation : Invocation) : Script → Program
  | const value => .returned value
  | echo parameter => .returned ((Keyed.look parameter invocation.bound).getD .null)
  | arguments => .returned (.list (invocation.bound.map fun entry => .list [.string entry.1, entry.2]))
  | sum => .returned (.integer (wrap ((invocation.bound.filterMap fun entry => word? entry.2).foldl (· + ·) 0)))
  | whoami => .returned (.list [.string invocation.function, .string invocation.function])
  | fail message => .failed message
  | panic message => .done (.panicked (some message))
  | panicSilently => .done (.panicked none)
  | exit => .whereabouts fun isolated => if isolated then .done .exited else .failed "exit in-process"
  | sleep duration rest => .sleep duration (rest.program invocation)
  | nest depth value => .returned (nested value depth)
  | «repeat» text times => .returned (.string (String.join (List.replicate times text)))
  | count => .count fun sum => .returned (.integer sum)
  | call function passed => .call function passed ofReply

end Script

end CallPolicy
