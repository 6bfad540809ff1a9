import CallPolicy.Number.Binary64

/-! The shortest decimal that reads back as a number, and the two ways in which it is
written: as JSON, with an exponent for very large and very small numbers, and in
messages, where there is never an exponent. -/

set_option autoImplicit false

namespace CallPolicy

/-- The number `coefficient * 10 ^ unit`. -/
structure Decimal where
  coefficient : Nat
  unit : Int
  deriving DecidableEq, Repr, Inhabited

namespace Decimal

def digits (decimal : Decimal) : List Char :=
  Nat.toDigits 10 decimal.coefficient

/-- The power of ten of the first digit. -/
def power (decimal : Decimal) : Int :=
  decimal.unit + (decimal.digits.length - 1 : Nat)

/-- The digits without the zeros at their end. -/
def significantDigits (decimal : Decimal) : List Char :=
  (decimal.digits.reverse.dropWhile (· = '0')).reverse

end Decimal

namespace Binary64

/-- A fraction times a power of ten. -/
def timesTenTo (num den : Nat) : Int → Nat × Nat
  | .ofNat power => (num * Nat.pow 10 power, den)
  | .negSucc power => (num, den * Nat.pow 10 (power + 1))

/-- The exponent of the greatest power of ten that is at most `num / den`. -/
def floorLog10 (num den : Nat) : Int :=
  -- The quotient is near the logarithm of two, so the estimate may be off by one on either side.
  let estimate := floorLog2 num den * 30103 / 100000
  let atLeast (power : Int) : Bool :=
    let scaled := timesTenTo num den (-power)
    scaled.2 ≤ scaled.1
  if atLeast (estimate + 1) then estimate + 1
  else if atLeast estimate then estimate
  else estimate - 1

/-- Whether a decimal rounds to the magnitude of a number. -/
def readBack (x : Binary64) (decimal : Decimal) : Bool :=
  let value := timesTenTo decimal.coefficient 1 decimal.unit
  roundMagnitude value.1 value.2 = x.magnitude

/-- Of the two neighbours of a number among the multiples of a power of ten, the nearer
one that reads back, a tie going to the even one. -/
def neighbour? (x : Binary64) (unit : Int) : Option Decimal :=
  let scaled := timesTenTo x.ratio.1 x.ratio.2 (-unit)
  let below := scaled.1 / scaled.2
  let nearest := roundQuotient scaled.1 scaled.2
  -- Next to a power of two the nearer multiple may read back as another number.
  let other := if nearest = below then below + 1 else below
  if x.readBack ⟨nearest, unit⟩ then some ⟨nearest, unit⟩
  else if x.readBack ⟨other, unit⟩ then some ⟨other, unit⟩
  else none

/-- The first hit when the unit gets finer, one power of ten at a time. -/
def firstNeighbour? (x : Binary64) : Nat → Int → Option Decimal
  | 0, _ => none
  | steps + 1, unit =>
    match x.neighbour? unit with
    | some decimal => some decimal
    | none => firstNeighbour? x steps (unit - 1)

/-- A finite number in full. -/
def exactDecimal (x : Binary64) : Decimal :=
  ⟨x.ratio.1 * Nat.pow 10 1074 / x.ratio.2, -1074⟩

/-- The decimal of a finite number that has the fewest digits. -/
def shortest (x : Binary64) : Decimal :=
  if x.isZero then ⟨0, 0⟩
  else (x.firstNeighbour? 17 (floorLog10 x.ratio.1 x.ratio.2)).getD x.exactDecimal

/-- Digits around a point, the first digit having the given power of ten. -/
def positional (digits : List Char) (power : Int) : List Char × List Char :=
  match power with
  | .ofNat power =>
    (digits.take (power + 1) ++ List.replicate (power + 1 - digits.length) '0', digits.drop (power + 1))
  | .negSucc power => (['0'], List.replicate power '0' ++ digits)

def signText (x : Binary64) : List Char :=
  if x.negative then ['-'] else []

def powerText (power : Int) : List Char :=
  'e' :: (if power < 0 then '-' else '+') :: Nat.toDigits 10 power.natAbs

/-- The text of a finite number in JSON: positional from `1e-5` up to below `1e16`, with
at least one place after the point. -/
def jsonText (x : Binary64) : List Char :=
  if x.isZero then x.signText ++ "0.0".toList
  else
    let decimal := x.shortest
    let digits := decimal.significantDigits
    let power := decimal.power
    if -5 ≤ power && power < 16 then
      let (whole, places) := positional digits power
      x.signText ++ whole ++ '.' :: (if places.isEmpty then ['0'] else places)
    else
      match digits with
      | [digit] => x.signText ++ digit :: powerText power
      | digit :: places => x.signText ++ digit :: '.' :: places ++ powerText power
      | [] => x.signText ++ '0' :: powerText power

/-- The text of a number in messages. -/
def messageText (x : Binary64) : List Char :=
  if x.isNaN then "NaN".toList
  else if x.isInfinite then x.signText ++ "inf".toList
  else if x.isZero then x.signText ++ ['0']
  else
    let decimal := x.shortest
    let (whole, places) := positional decimal.significantDigits decimal.power
    x.signText ++ whole ++ (if places.isEmpty then [] else '.' :: places)

end Binary64

end CallPolicy
