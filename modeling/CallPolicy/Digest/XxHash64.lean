/-! The 64-bit xxHash of a list of bytes, with seed zero. -/

set_option autoImplicit false

namespace CallPolicy.Digest.XxHash64

def prime1 : UInt64 := 11400714785074694791
def prime2 : UInt64 := 14029467366897019727
def prime3 : UInt64 := 1609587929392839161
def prime4 : UInt64 := 9650029242287828579
def prime5 : UInt64 := 2870177450012600261

def rotate (word : UInt64) (bits : UInt64) : UInt64 :=
  (word <<< bits) ||| (word >>> (64 - bits))

/-- The number whose digits to the base 256 are the bytes, the least one first. -/
def littleEndian (bytes : List UInt8) : UInt64 :=
  bytes.foldr (fun byte word => (word <<< 8) ||| byte.toUInt64) 0

def mixed (lane word : UInt64) : UInt64 :=
  rotate (lane + word * prime2) 31 * prime1

/-- Four running sums, one for each word of a stripe. -/
structure Lanes where
  first : UInt64
  second : UInt64
  third : UInt64
  fourth : UInt64

def Lanes.start : Lanes :=
  ⟨prime1 + prime2, prime2, 0, 0 - prime1⟩

/-- Take in stripes of 32 bytes; the rest is what they leave over. -/
def stripes : Nat → Lanes → List UInt8 → Lanes × List UInt8
  | 0, lanes, bytes => (lanes, bytes)
  | count + 1, lanes, bytes =>
    stripes count
      ⟨mixed lanes.first (littleEndian (bytes.take 8)),
        mixed lanes.second (littleEndian ((bytes.drop 8).take 8)),
        mixed lanes.third (littleEndian ((bytes.drop 16).take 8)),
        mixed lanes.fourth (littleEndian ((bytes.drop 24).take 8))⟩
      (bytes.drop 32)

def merge (word lane : UInt64) : UInt64 :=
  (word ^^^ mixed 0 lane) * prime1 + prime4

def Lanes.join (lanes : Lanes) : UInt64 :=
  let word := rotate lanes.first 1 + rotate lanes.second 7 + rotate lanes.third 12 + rotate lanes.fourth 18
  merge (merge (merge (merge word lanes.first) lanes.second) lanes.third) lanes.fourth

def takeEights : Nat → UInt64 → List UInt8 → UInt64 × List UInt8
  | 0, word, bytes => (word, bytes)
  | count + 1, word, bytes =>
    takeEights count (rotate (word ^^^ mixed 0 (littleEndian (bytes.take 8))) 27 * prime1 + prime4)
      (bytes.drop 8)

def takeFour (word : UInt64) (bytes : List UInt8) : UInt64 × List UInt8 :=
  if 4 ≤ bytes.length then
    (rotate (word ^^^ littleEndian (bytes.take 4) * prime1) 23 * prime2 + prime3, bytes.drop 4)
  else (word, bytes)

def takeByte (word : UInt64) (byte : UInt8) : UInt64 :=
  rotate (word ^^^ byte.toUInt64 * prime5) 11 * prime1

def avalanche (word : UInt64) : UInt64 :=
  let word := (word ^^^ (word >>> 33)) * prime2
  let word := (word ^^^ (word >>> 29)) * prime3
  word ^^^ (word >>> 32)

def hash (bytes : List UInt8) : UInt64 :=
  let length := bytes.length
  let (word, rest) :=
    if 32 ≤ length then
      let (lanes, rest) := stripes (length / 32) .start bytes
      (lanes.join, rest)
    else (prime5, bytes)
  -- The length goes in before what the stripes left over: words first, then a half, then bytes.
  let (word, rest) := takeEights (length % 32 / 8) (word + .ofNat length) rest
  let (word, rest) := takeFour word rest
  avalanche (rest.foldl takeByte word)

end CallPolicy.Digest.XxHash64
