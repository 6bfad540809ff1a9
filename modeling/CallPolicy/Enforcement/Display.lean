import CallPolicy.Enforcement.Program
import CallPolicy.Text.Visible

/-! Descriptions of governed functions for developers. -/

set_option autoImplicit false

namespace CallPolicy

open Json (Value)

namespace Display

/-- A character of a quoted text; what does not show is written as its number. -/
def escape (c : Char) : String :=
  if c = '"' then "\\\""
  else if c = '\\' then "\\\\"
  else if c = '\n' then "\\n"
  else if c = '\r' then "\\r"
  else if c = '\t' then "\\t"
  else if c = '\x00' then "\\0"
  else if Text.isVisible c then String.ofList [c]
  else "\\u\x7b" ++ String.ofList (Nat.toDigits 16 c.toNat) ++ "\x7d"

def quoted (text : String) : String :=
  "\"" ++ String.join (text.toList.map escape) ++ "\""

mutual

def value : Value → String
  | .null => "Null"
  | .bool true => "Bool(true)"
  | .bool false => "Bool(false)"
  | .integer number => "Number(" ++ String.ofList (Json.integerText number) ++ ")"
  | .float number => "Number(" ++ String.ofList number.jsonText ++ ")"
  | .string text => "String(" ++ quoted text ++ ")"
  | .list items => "Array [" ++ values items ++ "]"
  | .object members => "Object \x7b" ++ entries members ++ "\x7d"

def values : List Value → String
  | [] => ""
  | [item] => value item
  | item :: rest => value item ++ ", " ++ values rest

def entries : List (String × Value) → String
  | [] => ""
  | [(key, item)] => quoted key ++ ": " ++ value item
  | (key, item) :: rest => quoted key ++ ": " ++ value item ++ ", " ++ entries rest

end

def parameter (parameter : Parameter) : String :=
  let default :=
    match parameter.default with
    | some default => "Some(" ++ value default ++ ")"
    | none => "None"
  "Param \x7b name: " ++ quoted parameter.name ++ ", default: " ++ default ++ " \x7d"

def language : Language → String
  | .python => "Python"
  | .rust => "Rust"

end Display

/-- All but the source and the body. -/
def GovernedFunction.display (function : GovernedFunction) : String :=
  "GovernedFn \x7b name: " ++ Display.quoted function.name
    ++ ", params: [" ++ String.intercalate ", " (function.parameters.map Display.parameter)
    ++ "], language: " ++ Display.language function.source.language ++ ", .. \x7d"

end CallPolicy
