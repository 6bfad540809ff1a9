import CallPolicy.Keyed
import CallPolicy.Number.Shortest

/-! JSON values and their text.

An object lists its members in the order in which they are written. Objects that are read
as values keep their members sorted by key, each key once.
-/

set_option autoImplicit false

namespace CallPolicy.Json

/-- Integers and other numbers are kept apart: `2` is not `2.0`. -/
inductive Value where
  | null
  | bool (value : Bool)
  | integer (value : Int)
  | float (value : Binary64)
  | string (value : String)
  | list (items : List Value)
  | object (members : List (String × Value))
  deriving Repr, Inhabited

namespace Value

def get? (value : Value) (key : String) : Option Value :=
  match value with
  | .object members => Keyed.look key members
  | _ => none

def string? : Value → Option String
  | .string value => some value
  | _ => none

def list? : Value → Option (List Value)
  | .list items => some items
  | _ => none

def bool? : Value → Option Bool
  | .bool value => some value
  | _ => none

/-- A number as a double. -/
def number? : Value → Option Binary64
  | .integer value => some (.ofInt value)
  | .float value => some value
  | _ => none

mutual

/-- The number of lists and objects around the innermost value. -/
def depth : Value → Nat
  | .list items => depths items + 1
  | .object members => memberDepths members + 1
  | _ => 0

def depths : List Value → Nat
  | [] => 0
  | value :: rest => max value.depth (depths rest)

def memberDepths : List (String × Value) → Nat
  | [] => 0
  | (_, value) :: rest => max value.depth (memberDepths rest)

end

end Value

/-! ### Text -/

def hexDigit (n : Nat) : Char :=
  if n < 10 then Char.ofNat (48 + n) else Char.ofNat (87 + n)

def escape (c : Char) : List Char :=
  if c = '"' then ['\\', '"']
  else if c = '\\' then ['\\', '\\']
  else if c = '\n' then ['\\', 'n']
  else if c = '\r' then ['\\', 'r']
  else if c = '\t' then ['\\', 't']
  else if c = '\x08' then ['\\', 'b']
  else if c = '\x0c' then ['\\', 'f']
  else if c.toNat < 32 then ['\\', 'u', '0', '0', hexDigit (c.toNat / 16), hexDigit (c.toNat % 16)]
  else [c]

def quoted (text : String) : List Char :=
  '"' :: text.toList.flatMap escape ++ ['"']

def integerText (i : Int) : List Char :=
  if i < 0 then '-' :: Nat.toDigits 10 i.natAbs else Nat.toDigits 10 i.natAbs

namespace Value

mutual

/-- The text without any blank. -/
def compact : Value → List Char
  | .null => "null".toList
  | .bool true => "true".toList
  | .bool false => "false".toList
  | .integer value => integerText value
  | .float value => value.jsonText
  | .string value => quoted value
  | .list items => '[' :: compactItems items ++ [']']
  | .object members => '\x7b' :: compactMembers members ++ ['\x7d']

def compactItems : List Value → List Char
  | [] => []
  | [value] => value.compact
  | value :: rest => value.compact ++ ',' :: compactItems rest

def compactMembers : List (String × Value) → List Char
  | [] => []
  | [(key, value)] => quoted key ++ ':' :: value.compact
  | (key, value) :: rest => quoted key ++ ':' :: value.compact ++ ',' :: compactMembers rest

end

def newLine (level : Nat) : List Char :=
  '\n' :: List.replicate (2 * level) ' '

mutual

/-- The text with an item on each line, at the given level of nesting. -/
def prettyAt (level : Nat) : Value → List Char
  | .list [] => "[]".toList
  | .list items => '[' :: prettyItems (level + 1) items ++ newLine level ++ [']']
  | .object [] => "\x7b\x7d".toList
  | .object members => '\x7b' :: prettyMembers (level + 1) members ++ newLine level ++ ['\x7d']
  | .null => "null".toList
  | .bool true => "true".toList
  | .bool false => "false".toList
  | .integer value => integerText value
  | .float value => value.jsonText
  | .string value => quoted value

def prettyItems (level : Nat) : List Value → List Char
  | [] => []
  | [value] => newLine level ++ prettyAt level value
  | value :: rest => newLine level ++ prettyAt level value ++ ',' :: prettyItems level rest

def prettyMembers (level : Nat) : List (String × Value) → List Char
  | [] => []
  | [(key, value)] => newLine level ++ quoted key ++ ": ".toList ++ prettyAt level value
  | (key, value) :: rest =>
    newLine level ++ quoted key ++ ": ".toList ++ prettyAt level value ++ ',' :: prettyMembers level rest

end

def compactText (value : Value) : String :=
  String.ofList value.compact

def prettyText (value : Value) : String :=
  String.ofList (prettyAt 0 value)

end Value

end CallPolicy.Json
