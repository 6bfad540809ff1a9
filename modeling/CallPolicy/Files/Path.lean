import CallPolicy.Source

/-! Paths, and the languages that file names tell. -/

set_option autoImplicit false

namespace CallPolicy.Path

/-- The pieces of a text between separators. -/
def split (separator : Char) : List Char → List (List Char)
  | [] => [[]]
  | c :: rest =>
    match split separator rest with
    | piece :: pieces => if c = separator then [] :: piece :: pieces else (c :: piece) :: pieces
    | [] => [[c]]

/-- The names in a path. Repeated separators and references to the folder itself say
nothing. -/
def parts (path : String) : List String :=
  ((split '/' path.toList).filter fun piece => piece != [] && piece != ['.']).map String.ofList

/-- The last name of a path, unless it refers to the folder above. -/
def fileName? (path : String) : Option String :=
  (parts path).getLast?.filter (· != "..")

/-- What follows the last dot of a name. A dot at the very start begins no extension. -/
def extension? (name : String) : Option String :=
  match (split '.' name.toList).reverse with
  | last :: before =>
    if before = [] || before = [[]] then none else some (String.ofList last)
  | [] => none

end CallPolicy.Path

namespace CallPolicy.Language

def ofPath? (path : String) : Option Language :=
  ((Path.fileName? path).bind Path.extension?).bind ofExtension?

end CallPolicy.Language
