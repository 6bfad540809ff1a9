import CallPolicy.Documents.Policy
import CallPolicy.Files.Tree
import CallPolicy.Policy.Building

/-! Contracts, schemas and settings from files. -/

set_option autoImplicit false

namespace CallPolicy

/-- The schema in a file; what is no file is unknown. -/
def Schema.ofFile (workspace : Workspace) (reference : String) : Except SchemaError Schema :=
  if workspace.isFile reference then
    match workspace.readText reference with
    | .ok text => ofText text
    | .error _ => .error .unreadable
  else .error (.unknownSchema reference)

/-- A reference names a built-in schema or leads to the file of one. -/
def Schema.resolve (workspace : Workspace) (reference : String) : Except SchemaError Schema :=
  match byName reference with
  | .ok schema => .ok schema
  | .error _ => ofFile workspace reference

namespace CommandLine

def settingsPath : String := ".warden/warden.json"

/-- The settings of a workspace. -/
def settings (workspace : Workspace) : Settings :=
  .ofContents (workspace.readText settingsPath).toOption

/-- Why no contract could be loaded. -/
inductive LoadError where
  | unreadable (path : String) (cause : ReadError)
  | notJson (path : String)
  | notObject (path : String)
  | noSchema (cause : SchemaError)
  | refused (path : String) (cause : SchemaError)
  deriving DecidableEq, Repr, Inhabited

def LoadError.message : LoadError → String
  | unreadable path cause => "failed to read " ++ path ++ ": " ++ cause.message
  | notJson path => "failed to parse " ++ path
  | notObject path => path ++ ": contract must be a JSON object"
  | noSchema cause => cause.message
  | refused path cause => path ++ ": " ++ cause.message

def readDescription (workspace : Workspace) (path : String) : Except LoadError Description :=
  match workspace.readText path with
  | .error cause => .error (.unreadable path cause)
  | .ok text =>
    match Json.Value.ofText text with
    | none => .error (.notJson path)
    | some (.object members) => .ok (.ofJson (.object members))
    | some _ => .error (.notObject path)

/-- The schema that is asked for, or else that of the settings. -/
def schemaReference (settings : Settings) (explicit : Option String) : String :=
  explicit.getD settings.schema

/-- A description, and the schema for it. -/
def readInputs (workspace : Workspace) (path : String) (schema : Option String) :
    Except LoadError (Description × Schema) := do
  let description ← readDescription workspace path
  let schema ← (Schema.resolve workspace (schemaReference (settings workspace) schema)).mapError .noSchema
  return (description, schema)

def loadContract (workspace : Workspace) (path : String) (schema : Option String) :
    Except LoadError Contract := do
  let (description, schema) ← readInputs workspace path schema
  (Contract.ofDescription schema description).mapError (.refused path)

end CommandLine

end CallPolicy
