import CallPolicy.Number.Binary64

/-! Spans of time, in whole nanoseconds. -/

set_option autoImplicit false

namespace CallPolicy

structure Duration where
  nanoseconds : Nat
  deriving DecidableEq, Repr, Inhabited

namespace Duration

def perSecond : Nat := 1000000000

/-- Seconds are counted with 64 bits. -/
def secondLimit : Nat := 0x10000000000000000

def longest : Duration := ⟨secondLimit * perSecond - 1⟩

def seconds (duration : Duration) : Nat :=
  duration.nanoseconds / perSecond

/-- What is left after the whole seconds. -/
def subsecond (duration : Duration) : Nat :=
  duration.nanoseconds % perSecond

/-- A clock shows fewer seconds than this: it counts them with 64 bits, one of them for the sign. -/
def clockEnd : Nat := 0x8000000000000000

/-- A deadline so far off arrives some time: it is not past the end of the clock. -/
def arrives (duration : Duration) : Bool :=
  duration.seconds < clockEnd

/-- The nearest duration to a positive number of seconds, ties to the even one; the
longest one when the seconds cannot be counted. -/
def ofPositive (seconds : Binary64) : Duration :=
  if seconds.isFinite && seconds.ratio.1 < secondLimit * seconds.ratio.2 then
    ⟨Binary64.roundQuotient (seconds.ratio.1 * perSecond) seconds.ratio.2⟩
  else longest

/-- The duration of a number of seconds; `none` unless the number is positive. -/
def ofSeconds? (seconds : Binary64) : Option Duration :=
  if seconds.isPositive then some (ofPositive seconds) else none

end Duration

end CallPolicy
