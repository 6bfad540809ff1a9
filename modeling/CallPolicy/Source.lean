/-! Source units: a text and the language it is written in. -/

set_option autoImplicit false

namespace CallPolicy

inductive Language where
  | python
  | rust
  deriving DecidableEq, Repr, Inhabited

namespace Language

def name : Language → String
  | .python => "python"
  | .rust => "rust"

def ofName? (name : String) : Option Language :=
  if name = "python" || name = "py" then some .python
  else if name = "rust" || name = "rs" then some .rust
  else none

/-- The language of files with an extension. -/
def ofExtension? (extension : String) : Option Language :=
  if extension = "py" || extension = "pyi" then some .python
  else if extension = "rs" then some .rust
  else none

theorem ofName?_name (language : Language) : ofName? language.name = some language := by
  cases language <;> decide

end Language

structure SourceUnit where
  language : Language
  text : String
  deriving DecidableEq, Repr, Inhabited

end CallPolicy
