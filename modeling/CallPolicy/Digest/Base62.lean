/-! Words of 64 bits as eleven digits to the base 62, the most significant one first.

Eleven digits suffice, because 62 to the power of 11 is above 2 to the power of 64.
-/

set_option autoImplicit false

namespace CallPolicy.Digest.Base62

def width : Nat := 11

/-- Decimal digits, capital letters, small letters. -/
def digit (n : Nat) : Char :=
  if n < 10 then Char.ofNat (48 + n)
  else if n < 36 then Char.ofNat (55 + n)
  else Char.ofNat (61 + n)

/-- The last digits of a number. -/
def digits : Nat → Nat → List Char
  | 0, _ => []
  | count + 1, n => digits count (n / 62) ++ [digit (n % 62)]

def encode (word : UInt64) : String :=
  String.ofList (digits width word.toNat)

end CallPolicy.Digest.Base62
