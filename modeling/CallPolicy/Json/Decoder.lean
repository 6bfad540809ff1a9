import CallPolicy.Json.Reader

/-! Reading typed values out of documents.

A decoder is told how deep the document may still nest. Parts that it does not ask for may
hold anything that is written as JSON.
-/

set_option autoImplicit false

namespace CallPolicy.Json

/-- The depth that is left, and the document. -/
abbrev Decoder (α : Type) := Nat → Document → Option α

namespace Decoder

def text : Decoder String
  | _, .string value => value
  | _, _ => none

def flag : Decoder Bool
  | _, .bool value => some value
  | _, _ => none

/-- An integer from zero up to a limit; `1.0` is none. -/
def natBelow (limit : Nat) : Decoder Nat
  | _, .number (some (.integer (.ofNat value))) => if value < limit then some value else none
  | _, _ => none

def double : Decoder Binary64
  | _, .number (some (.integer value)) => some (.ofInt value)
  | _, .number (some (.float value)) => some value
  | _, _ => none

def value : Decoder Value :=
  fun depth document => document.value? depth

/-- `null` stands for a value that is not there. -/
def optional {α : Type} (decoder : Decoder α) : Decoder (Option α)
  | _, .null => some none
  | depth, document => (decoder depth document).map some

def list {α : Type} (decoder : Decoder α) : Decoder (List α)
  | depth + 1, .list items => items.mapM (decoder depth)
  | _, _ => none

def entries {α : Type} (decoder : Decoder α) (depth : Nat) :
    List (Option String × Document) → Option (List (String × α))
  | [] => some []
  | (key, document) :: rest => do
    let key ← key
    let value ← decoder depth document
    let entries ← entries decoder depth rest
    some ((key, value) :: entries)

/-- Of members with one key the last counts. -/
def keyed {α : Type} (decoder : Decoder α) : Decoder (Keyed α)
  | depth + 1, .object members => (entries decoder depth members).map .ofList
  | _, _ => none

/-- One of a set of names, or an object with such a name as its key and no contents. -/
def choice {α : Type} (ofName? : String → Option α) : Decoder α
  | _, .string (some name) => ofName? name
  | _ + 1, .object [(some name, .null)] => ofName? name
  | _, _ => none

/-- A choice for which an empty object is no contents, too. -/
def looseChoice {α : Type} (ofName? : String → Option α) : Decoder α
  | _ + 1, .object [(some name, .object [])] => ofName? name
  | depth, document => choice ofName? depth document

/-- Succeeds on what holds only values, as deep as allowed. -/
def sound : Decoder Unit :=
  fun depth document => (document.value? depth).map fun _ => ()

end Decoder

/-! ### Records -/

/-- The fields that a document gives to a record, and the depth inside of it. -/
structure Fields where
  depth : Nat
  /-- The document is a list, whose items are fields in order. -/
  positional : Bool
  found : List (String × Document)

namespace Fields

/-- The members of known names. Each may be there once; others are passed over. -/
def ofMembers (names : List String) : List (Option String × Document) → Option (List (String × Document))
  | [] => some []
  | (key, document) :: rest => do
    let key ← key
    let found ← ofMembers names rest
    if names.contains key then
      if (Keyed.look key found).isSome then none else some ((key, document) :: found)
    else some found

/-- The fields of an object by name, or those of a list by position. -/
def ofDocument (names : List String) : Nat → Document → Option Fields
  | depth + 1, .object members => (ofMembers names members).map fun found => ⟨depth, false, found⟩
  | depth + 1, .list items =>
    if names.length < items.length then none else some ⟨depth, true, names.zip items⟩
  | _, _ => none

def required {α : Type} (fields : Fields) (name : String) (decoder : Decoder α) : Option α :=
  (Keyed.look name fields.found).bind (decoder fields.depth)

/-- A field that an object may leave out, in favour of a default. -/
def withDefault {α : Type} (fields : Fields) (name : String) (default : α) (decoder : Decoder α) : Option α :=
  match Keyed.look name fields.found with
  | some document => decoder fields.depth document
  | none => some default

/-- A field that an object may leave out, and a list may not. -/
def nullable {α : Type} (fields : Fields) (name : String) (decoder : Decoder α) : Option (Option α) :=
  match Keyed.look name fields.found with
  | some document => Decoder.optional decoder fields.depth document
  | none => if fields.positional then none else some none

end Fields

def Decoder.record {α : Type} (names : List String) (read : Fields → Option α) : Decoder α :=
  fun depth document => (Fields.ofDocument names depth document).bind read

/-- Read a text with a decoder. -/
def Decoder.ofText {α : Type} (decoder : Decoder α) (text : String) : Option α :=
  (Document.ofText text.toList).bind (decoder depthLimit)

end CallPolicy.Json
