/-! Settings of a project. -/

set_option autoImplicit false

namespace CallPolicy

structure Settings where
  version : String
  /-- A built-in schema's name, or a path to a schema. -/
  schema : String
  /-- The decorator or attribute that marks a class as governed. -/
  marker : String
  /-- The languages that are looked for in folders. -/
  languages : List String
  ignorePatterns : List String
  deriving DecidableEq, Repr, Inhabited

namespace Settings

def standard : Settings where
  version := "0.1.0"
  schema := "v1"
  marker := "enforce_contract"
  languages := ["python", "rust"]
  ignorePatterns := []

def analyzes (settings : Settings) (language : String) : Bool :=
  settings.languages.contains language

end Settings

end CallPolicy
