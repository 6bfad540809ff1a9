/-! Arguments of the command line.

Options start with two dashes; `--json` and `--debug` may stand before or after the name of
the command. The first mistake decides, and so does a call for help before it.
-/

set_option autoImplicit false

namespace CallPolicy.CommandLine

inductive Command where
  | schema (contract : String) (schema : Option String)
  | check (contract : String) (schema marker : Option String) (paths : List String)
  | completion (shell : String)
  deriving DecidableEq, Repr, Inhabited

/-- What the arguments ask for. -/
inductive Request where
  | run (json : Bool) (command : Command)
  | help
  | version
  | misuse
  deriving DecidableEq, Repr, Inhabited

/-- An argument by its form. -/
inductive Argument where
  /-- Two dashes: the rest is no option. -/
  | escape
  | long (name : String) (value : Option String)
  | short (letter : Char)
  | word (text : String)
  deriving DecidableEq, Repr

def Argument.ofText (text : String) : Argument :=
  match text.toList with
  | ['-', '-'] => escape
  | '-' :: '-' :: rest =>
    let name := rest.takeWhile (· != '=')
    match rest.drop name.length with
    | _ :: value => long (String.ofList name) (some (String.ofList value))
    | [] => long (String.ofList name) none
  | '-' :: letter :: _ => short letter
  | _ => word text

/-- How many words a command takes. -/
inductive Words where
  | none
  | one
  | many
  deriving DecidableEq, Repr

/-- The arguments that a command takes. Paths must not be empty. -/
structure Form where
  options : List String
  paths : List String
  words : Words
  emptyWords : Bool

def Form.schema : Form := ⟨["contract", "schema"], ["contract"], .none, false⟩
def Form.check : Form := ⟨["contract", "schema", "marker"], ["contract"], .many, false⟩
def Form.completion : Form := ⟨[], [], .one, true⟩

structure Parsed where
  flags : List String
  options : List (String × String)
  words : List String
  deriving Inhabited

inductive Stop where
  | help
  | misuse
  deriving DecidableEq, Repr

def flagNames : List String := ["json", "debug"]

namespace Parsed

def empty : Parsed := ⟨[], [], []⟩

def has (parsed : Parsed) (flag : String) : Bool :=
  parsed.flags.contains flag

def option? (parsed : Parsed) (name : String) : Option String :=
  parsed.options.lookup name

def addFlag (parsed : Parsed) (flag : String) : Except Stop Parsed :=
  if parsed.has flag then .error .misuse else .ok { parsed with flags := flag :: parsed.flags }

/-- Each option may be given once. -/
def addOption (parsed : Parsed) (form : Form) (name value : String) : Except Stop Parsed :=
  if (parsed.option? name).isSome || (value.isEmpty && form.paths.contains name) then .error .misuse
  else .ok { parsed with options := (name, value) :: parsed.options }

def addWord (parsed : Parsed) (form : Form) (word : String) : Except Stop Parsed :=
  if word.isEmpty && !form.emptyWords then .error .misuse
  else
    match form.words with
    | .none => .error .misuse
    | .one => if parsed.words.isEmpty then .ok { parsed with words := [word] } else .error .misuse
    | .many => .ok { parsed with words := parsed.words ++ [word] }

end Parsed

/-- Read the arguments of a command. `pending` is an option that waits for its value. -/
def Form.parse (form : Form) (parsed : Parsed) (pending : Option String) :
    List String → Except Stop Parsed
  | [] => if pending.isSome then .error .misuse else .ok parsed
  | text :: rest =>
    match Argument.ofText text, pending with
    -- Only a word can be the value that an option waits for.
    | .word value, some name => do form.parse (← parsed.addOption form name value) none rest
    | _, some _ => .error .misuse
    | .escape, none => rest.foldlM (fun parsed word => parsed.addWord form word) parsed
    | .long name (some value), none =>
      if form.options.contains name then do form.parse (← parsed.addOption form name value) none rest
      else .error .misuse
    | .long name none, none =>
      if name = "help" then .error .help
      else if flagNames.contains name then do form.parse (← parsed.addFlag name) none rest
      else if form.options.contains name then form.parse parsed (some name) rest
      else .error .misuse
    | .short letter, none => .error (if letter = 'h' then .help else .misuse)
    | .word word, none => do form.parse (← parsed.addWord form word) none rest

/-- The command of a name with its arguments read; none when a required one is missing. -/
def Parsed.command? (parsed : Parsed) : String → Option Command
  | "schema" => do return .schema (← parsed.option? "contract") (parsed.option? "schema")
  | "check" => do
    return .check (← parsed.option? "contract") (parsed.option? "schema") (parsed.option? "marker") parsed.words
  | "completion" => do return .completion (← parsed.words.head?)
  | _ => none

def form? : String → Option Form
  | "schema" => some .schema
  | "check" => some .check
  | "completion" => some .completion
  | _ => none

/-- A call for help on a command, or on none. -/
def helpRequest (names : List String) : Request :=
  match names with
  | [] => .help
  | [name] => if name = "help" || (form? name).isSome then .help else .misuse
  | _ => .misuse

/-- Read the arguments of a command that has been named. -/
def commandRequest (outer : Parsed) (name : String) (arguments : List String) : Request :=
  match form? name with
  | none => if name = "help" then helpRequest arguments else .misuse
  | some form =>
    match form.parse .empty none arguments with
    | .error .help => .help
    | .error .misuse => .misuse
    | .ok parsed =>
      match parsed.command? name with
      | some command => .run (outer.has "json" || parsed.has "json") command
      | none => .misuse

/-- Read the arguments up to the name of a command, with the flags before it. -/
def readRequest (outer : Parsed) : List String → Request
  | [] => .misuse
  | text :: rest =>
    match Argument.ofText text with
    | .word name => commandRequest outer name rest
    | .long "help" none | .short 'h' => .help
    | .long "version" none | .short 'V' => .version
    | .long name none =>
      if flagNames.contains name then
        match outer.addFlag name with
        | .ok outer => readRequest outer rest
        | .error _ => .misuse
      else .misuse
    | _ => .misuse

def Request.ofArguments (arguments : List String) : Request :=
  readRequest .empty arguments

end CallPolicy.CommandLine
