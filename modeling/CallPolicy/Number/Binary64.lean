/-! Double-precision numbers as their bits, with exact arithmetic on naturals.

Every operation is the exact result rounded to the nearest number, ties to the one with
an even last bit.
-/

set_option autoImplicit false

namespace CallPolicy

structure Binary64 where
  bits : UInt64
  deriving DecidableEq, Repr, Inhabited

namespace Binary64

/-- The weight of the highest bit, which holds the sign. -/
def signUnit : Nat := 0x8000000000000000

/-- The weight of the lowest bit of the exponent: the fraction lies below it. -/
def exponentUnit : Nat := 0x10000000000000

def negative (x : Binary64) : Bool :=
  signUnit ≤ x.bits.toNat

/-- The bits without the sign. -/
def magnitude (x : Binary64) : Nat :=
  x.bits.toNat % signUnit

def biasedExponent (x : Binary64) : Nat :=
  x.magnitude / exponentUnit

def fraction (x : Binary64) : Nat :=
  x.magnitude % exponentUnit

def infinityBits : Nat := 2047 * exponentUnit

def isFinite (x : Binary64) : Bool :=
  x.magnitude < infinityBits

def isInfinite (x : Binary64) : Bool :=
  x.magnitude = infinityBits

def isNaN (x : Binary64) : Bool :=
  infinityBits < x.magnitude

def isZero (x : Binary64) : Bool :=
  x.magnitude = 0

/-- Of a finite number: the integer that its power of two multiplies. -/
def significand (x : Binary64) : Nat :=
  if x.biasedExponent = 0 then x.fraction else x.fraction + exponentUnit

/-- Of a finite number: its power of two. -/
def exponent (x : Binary64) : Int :=
  if x.biasedExponent = 0 then -1074 else (x.biasedExponent : Int) - 1075

/-- The magnitude of a finite number as a fraction. -/
def ratio (x : Binary64) : Nat × Nat :=
  match x.exponent with
  | .ofNat power => (x.significand * Nat.pow 2 power, 1)
  | .negSucc power => (x.significand, Nat.pow 2 (power + 1))

def ofMagnitude (negative : Bool) (magnitude : Nat) : Binary64 :=
  ⟨.ofNat (magnitude + if negative then signUnit else 0)⟩

def zero : Binary64 := ofMagnitude false 0
def infinity (negative : Bool) : Binary64 := ofMagnitude negative infinityBits
def nan : Binary64 := ofMagnitude false (infinityBits + exponentUnit / 2)

/-- The quotient rounded to an integer, ties to even. -/
def roundQuotient (num den : Nat) : Nat :=
  let quotient := num / den
  let twice := 2 * (num % den)
  if den < twice || (twice = den && quotient % 2 = 1) then quotient + 1 else quotient

/-- The exponent of the greatest power of two that is at most `num / den`. -/
def floorLog2 (num den : Nat) : Int :=
  let estimate : Int := (num.log2 : Int) - (den.log2 : Int)
  let reached : Bool :=
    match estimate with
    | .ofNat power => den * Nat.pow 2 power ≤ num
    | .negSucc power => den ≤ num * Nat.pow 2 (power + 1)
  if reached then estimate else estimate - 1

/-- The magnitude bits of the number nearest to a fraction; infinity when it is too
large. -/
def roundMagnitude (num den : Nat) : Nat :=
  if num = 0 then 0
  else
    -- Below the normal numbers the exponent stays, and the significand gets shorter.
    let shift := min (52 - floorLog2 num den) 1074
    let quotient :=
      match shift with
      | .ofNat power => roundQuotient (num * Nat.pow 2 power) den
      | .negSucc power => roundQuotient num (den * Nat.pow 2 (power + 1))
    -- Added, not joined: a quotient rounded up to the next power of two carries into the exponent.
    min ((1074 - shift).toNat * exponentUnit + quotient) infinityBits

def ofRatio (negative : Bool) (num den : Nat) : Binary64 :=
  ofMagnitude negative (roundMagnitude num den)

def ofNat (n : Nat) : Binary64 :=
  ofRatio false n 1

def ofInt (i : Int) : Binary64 :=
  ofRatio (i < 0) i.natAbs 1

def neg (x : Binary64) : Binary64 :=
  ofMagnitude (!x.negative) x.magnitude

/-- The product of finite numbers. -/
def mul (x y : Binary64) : Binary64 :=
  ofRatio (x.negative != y.negative) (x.ratio.1 * y.ratio.1) (x.ratio.2 * y.ratio.2)

/-- The quotient of finite numbers, the second not zero. -/
def div (x y : Binary64) : Binary64 :=
  ofRatio (x.negative != y.negative) (x.ratio.1 * y.ratio.2) (x.ratio.2 * y.ratio.1)

/-- Greater than zero. -/
def isPositive (x : Binary64) : Bool :=
  !x.isNaN && !x.isZero && !x.negative

end Binary64

end CallPolicy
