import CallPolicy.CommandLine.Arguments
import CallPolicy.CommandLine.Contracts
import CallPolicy.Documents.Report
import CallPolicy.Files.Walk
import CallPolicy.Report.Analysis
import CallPolicy.Report.Text

/-! The commands, and what they print.

Checking files exits with 0 when there is nothing to report, with 1 when there are
findings, and with 2 when a contract or a file could not be read.
-/

set_option autoImplicit false

namespace CallPolicy.CommandLine

structure Output where
  exitCode : Nat
  stdout : String
  stderr : String
  deriving DecidableEq, Repr, Inhabited

/-- A message instead of a result. -/
def Output.failure (message : String) : Output :=
  ⟨2, "", message ++ "\n"⟩

/-! ### Check -/

/-- The text of a file that was found, or why it could not be read, and its findings. -/
def checkText (contract : Contract) (marker : String) (source : SourceFile)
    (text : Except ReadError String) : Except FileFailure FileReport :=
  match text with
  | .error cause => .error ⟨source.path, cause.message⟩
  | .ok text =>
    match analyze contract marker ⟨source.language, text⟩ with
    | .ok report => .ok ⟨source.path, source.language.name, report⟩
    | .error error => .error ⟨source.path, error.message⟩

def addChecked (result : CheckResult) : Except FileFailure FileReport → CheckResult
  | .ok file => result.addFile file
  | .error failure => result.addFailure failure

/-- The result of checking the files that were found. -/
def checkResult (contract : Contract) (path marker : String)
    (found : List (SourceFile × Except ReadError String)) : CheckResult :=
  (found.map fun (source, text) => checkText contract marker source text).foldl addChecked (.empty path)

-- A file that could not be read outweighs any number of findings.
def exitCode (result : CheckResult) : Nat :=
  if !result.failures.isEmpty then 2 else if 0 < result.totalCount then 1 else 0

def checkOutput (json : Bool) (result : CheckResult) : Output :=
  ⟨exitCode result, if json then result.toJson.prettyText ++ "\n" else result.text, ""⟩

/-- The folder that is checked when no path is given. -/
def standardRoots : List String := ["."]

/-- The source files under paths, in languages that the settings name, each with its
contents; the path that leads nowhere, if there is one. -/
def findSources (workspace : Workspace) (settings : Settings) (paths : List String) :
    Except String (List (SourceFile × Except ReadError String)) :=
  match paths.find? fun path => !workspace.exists? path with
  | some path => .error path
  | none => .ok <|
    ((paths.flatMap (workspace.sources settings.ignorePatterns)).filter fun source =>
      settings.analyzes source.language.name).map fun source => (source, workspace.readText source.path)

def check (workspace : Workspace) (json : Bool) (contractPath : String) (schema marker : Option String)
    (paths : List String) : Output :=
  let settings := settings workspace
  match loadContract workspace contractPath schema with
  | .error error => .failure ("warden check: " ++ error.message)
  | .ok contract =>
    match findSources workspace settings (if paths.isEmpty then standardRoots else paths) with
    | .error path => .failure ("warden check: path not found: " ++ path)
    | .ok found =>
      checkOutput json (checkResult contract contractPath (marker.getD settings.marker) found)

/-! ### Schema -/

def schemaResult (path reference : String) : Except SchemaError Contract → SchemaResult
  | .ok contract => ⟨path, reference, true, none, contract.declaredFunctions⟩
  | .error error => ⟨path, reference, false, some error.message, []⟩

def schemaOutput (json : Bool) (result : SchemaResult) : Output :=
  ⟨if result.valid then 0 else 2, if json then result.toJson.prettyText ++ "\n" else result.text, ""⟩

def schema (workspace : Workspace) (json : Bool) (contractPath : String) (schema : Option String) : Output :=
  match readInputs workspace contractPath schema with
  | .error error => .failure ("warden schema: " ++ error.message)
  | .ok (description, found) =>
    schemaOutput json (schemaResult contractPath (schemaReference (settings workspace) schema)
      (Contract.ofDescription found description))

/-! ### Completion -/

def lowered (c : Char) : Char :=
  if 'A' ≤ c && c ≤ 'Z' then Char.ofNat (c.toNat + 32) else c

/-- A script that completes the names of the commands. -/
def completionScript? : String → Option String
  | "bash" => some "complete -W \"schema check completion help\" warden\n"
  | "zsh" => some "compdef \"_arguments 1:command:(schema check completion help)\" warden\n"
  | "fish" => some "complete -c warden -f -a \"schema check completion help\"\n"
  | "elvish" => some "set edit:completion:arg-completer[warden] = [@args]\x7b put schema check completion help \x7d\n"
  | "powershell" | "ps" =>
    some "Register-ArgumentCompleter -Native -CommandName warden -ScriptBlock \x7b 'schema','check','completion','help' \x7d\n"
  | _ => none

def completion (shell : String) : Output :=
  match completionScript? (String.ofList (shell.toList.map lowered)) with
  | some script => ⟨0, script, ""⟩
  | none => .failure ("error: unsupported shell '" ++ shell ++ "'\nsupported: bash, zsh, fish, elvish, powershell")

/-! ### All commands -/

def usage : String :=
  "Usage: warden [--json] [--debug] schema --contract FILE [--schema SCHEMA]\n"
    ++ "       warden [--json] [--debug] check --contract FILE [--schema SCHEMA] [--marker MARKER] [PATHS]\n"
    ++ "       warden completion SHELL\n"

def Command.run (workspace : Workspace) (json : Bool) : Command → Output
  | schema contract reference => CommandLine.schema workspace json contract reference
  | check contract reference marker paths => CommandLine.check workspace json contract reference marker paths
  | completion shell => CommandLine.completion shell

/-- Do what the arguments ask for. -/
def run (workspace : Workspace) (arguments : List String) : Output :=
  match Request.ofArguments arguments with
  | .run json command => command.run workspace json
  | .help => ⟨0, usage, ""⟩
  | .version => ⟨0, "warden 0.1.0\n", ""⟩
  | .misuse => ⟨2, "", usage⟩

end CallPolicy.CommandLine
