import CallPolicy.Json.Value

/-! Reading JSON text.

A text is read to a document first, which keeps repeated members and marks the numbers
and strings that no value holds. It becomes a value only where one is asked for, so that
parts nobody asks for may hold anything.
-/

set_option autoImplicit false

namespace CallPolicy.Json

inductive Number where
  | integer (value : Int)
  | float (value : Binary64)
  deriving DecidableEq, Repr, Inhabited

/-- `none` stands for a number beyond the doubles, and for a string with half of a
surrogate pair. -/
inductive Document where
  | null
  | bool (value : Bool)
  | number (value : Option Number)
  | string (value : Option String)
  | list (items : List Document)
  | object (members : List (Option String × Document))
  deriving Repr, Inhabited

/-! ### Numbers -/

def digitValue (c : Char) : Nat :=
  c.toNat - 48

def isDigit (c : Char) : Bool :=
  '0' ≤ c && c ≤ '9'

/-- The greatest integer of 64 bits. -/
def greatestWord : Nat := 0xffffffffffffffff

/-- The least integer of 64 bits, one of them for the sign, is this far below zero. -/
def negativeLimit : Nat := 0x8000000000000000

/-- Exponents are counted with 32 bits, one of them for the sign. -/
def powerLimit : Nat := 0x80000000

/-- Read digits into a significand of at most 64 bits, as far as it goes; the rest are
digits that found no place. -/
def fillSignificand (significand : Nat) : List Char → Nat × List Char
  | [] => (significand, [])
  | c :: rest =>
    let next := significand * 10 + digitValue c
    if greatestWord < next then (significand, c :: rest) else fillSignificand next rest

/-- Double-precision powers of ten. -/
def tenTo (power : Nat) : Binary64 :=
  .ofNat (Nat.pow 10 power)

/-- Scale a significand by a power of ten, in steps that doubles can hold. The steps round
each on their own, so the result may miss the nearest double. -/
def scale (x : Binary64) (exponent : Int) : Nat → Option Binary64
  | 0 => some x
  | steps + 1 =>
    if exponent.natAbs ≤ 308 then
      if 0 ≤ exponent then
        let scaled := x.mul (tenTo exponent.natAbs)
        if scaled.isInfinite then none else some scaled
      else some (x.div (tenTo exponent.natAbs))
    else if x.isZero then some x
    else if 0 ≤ exponent then none
    else scale (x.div (tenTo 308)) (exponent + 308) steps

def withSign (negative : Bool) (x : Binary64) : Binary64 :=
  if negative then x.neg else x

/-- The value of a number with a point or an exponent, or with too many digits. `places`
are the digits after the point. -/
def decimalValue (negative : Bool) (whole : List Char) (places : Option (List Char))
    (exponent : Option (Bool × List Char)) : Option Number :=
  let (significand, dropped) := fillSignificand 0 whole
  let (significand, start) : Nat × Int :=
    match places with
    | none => (significand, dropped.length)
    -- Each digit after the point that found a place lowers the power of ten by one.
    | some places =>
      let filled := fillSignificand significand places
      (filled.1, (dropped.length : Int) - (places.length - filled.2.length : Nat))
  match exponent with
  | none => (scale (.ofNat significand) start (start.natAbs + 1)).map (.float ∘ withSign negative)
  | some (minus, digits) =>
    let power := digits.foldl (fun power c => if power < powerLimit then power * 10 + digitValue c else power) 0
    -- So great a power cannot be counted: only zero, or nothing left of the number, has a value.
    if powerLimit ≤ power then
      if significand = 0 || minus then some (.float (withSign negative .zero)) else none
    else
      let total : Int := if minus then start - power else start + power
      let total := max (-(powerLimit : Int)) (min ((powerLimit : Int) - 1) total)
      (scale (.ofNat significand) total (total.natAbs / 308 + 2)).map (.float ∘ withSign negative)

/-- The value of a number of digits alone. -/
def integerValue (negative : Bool) (digits : List Char) : Option Number :=
  let value := digits.foldl (fun n c => n * 10 + digitValue c) 0
  if greatestWord < value then decimalValue negative digits none none
  else if negative then
    -- Minus zero is no integer.
    if value = 0 || negativeLimit < value then some (.float (.neg (.ofNat value)))
    else some (.integer (-value))
  else some (.integer value)

def readExponent : List Char → Option (Option (Bool × List Char) × List Char)
  | c :: rest =>
    if c = 'e' || c = 'E' then
      let (minus, rest) :=
        match rest with
        | '+' :: rest => (false, rest)
        | '-' :: rest => (true, rest)
        | rest => (false, rest)
      let digits := rest.takeWhile isDigit
      if digits.isEmpty then none else some (some (minus, digits), rest.drop digits.length)
    else some (none, c :: rest)
  | [] => some (none, [])

/-- Read a number after its sign. -/
def readNumber (negative : Bool) (text : List Char) : Option (Document × List Char) := do
  let whole := text.takeWhile isDigit
  let rest := text.drop whole.length
  if whole.isEmpty || (whole.head? = some '0' && 1 < whole.length) then none
  else
    match rest with
    | '.' :: rest =>
      let places := rest.takeWhile isDigit
      if places.isEmpty then none
      else
        let (exponent, rest) ← readExponent (rest.drop places.length)
        some (.number (decimalValue negative whole (some places) exponent), rest)
    | rest =>
      let (exponent, rest) ← readExponent rest
      match exponent with
      | none => some (.number (integerValue negative whole), rest)
      | some _ => some (.number (decimalValue negative whole none exponent), rest)

/-! ### Strings -/

def hexValue? (c : Char) : Option Nat :=
  if isDigit c then some (c.toNat - 48)
  else if 'a' ≤ c && c ≤ 'f' then some (c.toNat - 87)
  else if 'A' ≤ c && c ≤ 'F' then some (c.toNat - 55)
  else none

def hexUnit? (a b c d : Char) : Option Nat := do
  let a ← hexValue? a
  let b ← hexValue? b
  let c ← hexValue? c
  let d ← hexValue? d
  some (((a * 16 + b) * 16 + c) * 16 + d)

def unescaped? (c : Char) : Option Char :=
  if c = '"' || c = '\\' || c = '/' then some c
  else if c = 'b' then some '\x08'
  else if c = 'f' then some '\x0c'
  else if c = 'n' then some '\n'
  else if c = 'r' then some '\r'
  else if c = 't' then some '\t'
  else none

def isHighHalf (unit : Nat) : Bool := 0xd800 ≤ unit && unit < 0xdc00
def isLowHalf (unit : Nat) : Bool := 0xdc00 ≤ unit && unit < 0xe000

/-- Read a string after its opening quote. The characters so far are in reverse, `whole`
says that no half of a pair stood alone, and `high` holds a first half that waits for the
second. -/
def readString (read : List Char) (whole : Bool) (high : Option Nat) :
    List Char → Option (Option String × List Char)
  | [] => none
  | '"' :: rest =>
    some (if whole && high.isNone then some (String.ofList read.reverse) else none, rest)
  | '\\' :: 'u' :: a :: b :: c :: d :: rest =>
    match hexUnit? a b c d, high with
    | none, _ => none
    | some unit, none =>
      if isHighHalf unit then readString read whole (some unit) rest
      else if isLowHalf unit then readString read false none rest
      else readString (Char.ofNat unit :: read) whole none rest
    | some unit, some first =>
      if isLowHalf unit then
        readString (Char.ofNat (0x10000 + (first - 0xd800) * 0x400 + (unit - 0xdc00)) :: read) whole none rest
      else readString read false (if isHighHalf unit then some unit else none) rest
  | '\\' :: c :: rest =>
    match unescaped? c with
    | none => none
    | some c => readString (c :: read) (whole && high.isNone) none rest
  | c :: rest =>
    if c.toNat < 32 then none else readString (c :: read) (whole && high.isNone) none rest

/-! ### Documents -/

def isBlank (c : Char) : Bool :=
  c = ' ' || c = '\n' || c = '\t' || c = '\r'

def skipBlanks (text : List Char) : List Char :=
  text.dropWhile isBlank

mutual

/-- Read a value after the blanks before it. -/
def readDocument : Nat → List Char → Option (Document × List Char)
  | 0, _ => none
  | fuel + 1, text =>
    match skipBlanks text with
    | 'n' :: 'u' :: 'l' :: 'l' :: rest => some (.null, rest)
    | 't' :: 'r' :: 'u' :: 'e' :: rest => some (.bool true, rest)
    | 'f' :: 'a' :: 'l' :: 's' :: 'e' :: rest => some (.bool false, rest)
    | '"' :: rest => (readString [] true none rest).map fun (value, rest) => (.string value, rest)
    | '-' :: rest => readNumber true rest
    | '[' :: rest =>
      match skipBlanks rest with
      | ']' :: rest => some (.list [], rest)
      | rest => (readItems fuel rest).map fun (items, rest) => (.list items, rest)
    | '\x7b' :: rest =>
      match skipBlanks rest with
      | '\x7d' :: rest => some (.object [], rest)
      | rest => (readMembers fuel rest).map fun (members, rest) => (.object members, rest)
    | text => readNumber false text

/-- Read the items of a list up to its end; there is at least one. -/
def readItems : Nat → List Char → Option (List Document × List Char)
  | 0, _ => none
  | fuel + 1, text => do
    let (item, rest) ← readDocument fuel text
    match skipBlanks rest with
    | ',' :: rest =>
      let (items, rest) ← readItems fuel rest
      some (item :: items, rest)
    | ']' :: rest => some ([item], rest)
    | _ => none

/-- Read the members of an object up to its end; there is at least one. -/
def readMembers : Nat → List Char → Option (List (Option String × Document) × List Char)
  | 0, _ => none
  | fuel + 1, text => do
    match skipBlanks text with
    | '"' :: rest =>
      let (key, rest) ← readString [] true none rest
      match skipBlanks rest with
      | ':' :: rest =>
        let (value, rest) ← readDocument fuel rest
        match skipBlanks rest with
        | ',' :: rest =>
          let (members, rest) ← readMembers fuel rest
          some ((key, value) :: members, rest)
        | '\x7d' :: rest => some ([(key, value)], rest)
        | _ => none
      | _ => none
    | _ => none

end

/-- The document of a whole text. -/
def Document.ofText (text : List Char) : Option Document :=
  match readDocument (text.length + 1) text with
  | some (document, rest) => if (skipBlanks rest).isEmpty then some document else none
  | none => none

/-- The deepest nesting of lists and objects that a value may have. -/
def depthLimit : Nat := 127

mutual

/-- The value of a document that nests no deeper than allowed. Of members with one key the
last counts. -/
def Document.value? : Nat → Document → Option Value
  | _, .null => some .null
  | _, .bool value => some (.bool value)
  | _, .number (some (.integer value)) => some (.integer value)
  | _, .number (some (.float value)) => some (.float value)
  | _, .number none => none
  | _, .string value => value.map .string
  | 0, .list _ => none
  | 0, .object _ => none
  | depth + 1, .list items => (itemValues? depth items).map .list
  | depth + 1, .object members => (memberValues? depth members []).map .object

def itemValues? : Nat → List Document → Option (List Value)
  | _, [] => some []
  | depth, document :: rest => do
    let value ← document.value? depth
    let values ← itemValues? depth rest
    some (value :: values)

def memberValues? (depth : Nat) :
    List (Option String × Document) → List (String × Value) → Option (List (String × Value))
  | [], read => some read
  | (key, document) :: rest, read => do
    let key ← key
    let value ← document.value? depth
    memberValues? depth rest (Keyed.put key value read)

end

/-- Read a text as a value. -/
def Value.ofText (text : String) : Option Value := do
  let document ← Document.ofText text.toList
  document.value? depthLimit

end CallPolicy.Json
