import CallPolicy.Report.Basic

/-! Reports for people to read. -/

set_option autoImplicit false

namespace CallPolicy

namespace RecordKind

/-- The kinds in the order of their sections. -/
def sections : List RecordKind :=
  [call, importing, undeclaredFunction, undefinedFunction, undecoratedClass]

def title : RecordKind → String
  | call => "Call violations"
  | importing => "Import violations"
  | undeclaredFunction => "Undeclared function"
  | undefinedFunction => "Undefined function"
  | undecoratedClass => "Undecorated class"

/-- The underlined title. -/
def heading (kind : RecordKind) : String :=
  kind.title ++ "\n" ++ String.ofList (List.replicate kind.title.length '-') ++ "\n"

end RecordKind

namespace ViolationRecord

def finding (entry : ViolationRecord) : String :=
  match entry.kind with
  | .call =>
    "function `" ++ entry.subject ++ "` called in `" ++ entry.context.getD "<module>"
      ++ "` but not allowed in contract"
  | .importing => "`" ++ entry.subject ++ "` imported but not allowed in contract"
  | .undeclaredFunction => "function `" ++ entry.subject ++ "` defined but not declared in contract"
  | .undefinedFunction => "function `" ++ entry.subject ++ "` declared in contract `functions`, but undefined"
  | .undecoratedClass => "class `" ++ entry.subject ++ "` defined but undecorated"

def text (entry : ViolationRecord) : String :=
  let place :=
    match entry.line with
    | some line => " (Line: " ++ toString line ++ ")"
    | none => ""
  "error" ++ place ++ ": " ++ entry.finding ++ "\n"

end ViolationRecord

namespace ViolationReport

/-- The records of a kind under its heading, when there are any. -/
def sectionText (report : ViolationReport) (kind : RecordKind) : String :=
  if (report.bucket kind).isEmpty then ""
  else kind.heading ++ String.join ((report.bucket kind).map (·.text)) ++ "\n"

def text (report : ViolationReport) : String :=
  String.join (RecordKind.sections.map report.sectionText)

end ViolationReport

namespace FileReport

/-- A file without findings has no text. -/
def text (file : FileReport) : String :=
  if file.report.isClean then "" else file.file ++ "\n\n" ++ file.report.text

end FileReport

namespace FileFailure

def text (failure : FileFailure) : String :=
  "error: " ++ failure.file ++ ": " ++ failure.message ++ "\n"

end FileFailure

namespace CheckResult

def failuresText (result : CheckResult) : String :=
  if result.failures.isEmpty then ""
  else String.join (result.failures.map (·.text)) ++ "\n"

def text (result : CheckResult) : String :=
  String.join (result.files.map (·.text)) ++ result.failuresText
    ++ "Total Violations: " ++ toString result.totalCount ++ "\n"

end CheckResult

namespace SchemaResult

def text (result : SchemaResult) : String :=
  if result.valid then
    result.contract ++ ": valid against schema " ++ result.schema ++ " ("
      ++ toString result.functions.length ++ " function(s) declared)\n"
  else "error: " ++ result.contract ++ ": " ++ result.error.getD "invalid contract" ++ "\n"

end SchemaResult

end CallPolicy
