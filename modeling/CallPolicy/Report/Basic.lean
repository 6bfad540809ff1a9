import CallPolicy.Enforcement.Violation

/-! Findings of the static analysis, filed by kind. -/

set_option autoImplicit false

namespace CallPolicy

inductive RecordKind where
  | call
  | importing
  | undeclaredFunction
  | undefinedFunction
  | undecoratedClass
  deriving DecidableEq, Repr, Inhabited

namespace RecordKind

def name : RecordKind → String
  | call => "call"
  | importing => "import"
  | undeclaredFunction => "undeclared_function"
  | undefinedFunction => "undefined_function"
  | undecoratedClass => "undecorated_class"

/-- The kinds in the order of a report. -/
def all : List RecordKind :=
  [call, importing, undeclaredFunction, undefinedFunction, undecoratedClass]

def ofName? (name : String) : Option RecordKind :=
  all.find? (·.name == name)

/-- The breach that a finding is. -/
def violationKind : RecordKind → ViolationKind
  | call => .callNotAllowed
  | importing => .importNotAllowed
  | undeclaredFunction => .undeclaredFunction
  | undefinedFunction => .undefinedFunction
  | undecoratedClass => .undecoratedClass

end RecordKind

/-- One finding. There is no line where a declared function has no definition, and a
context only where a call was found in a function. -/
structure ViolationRecord where
  kind : RecordKind
  line : Option Nat
  subject : String
  context : Option String
  deriving DecidableEq, Repr, Inhabited

/-- The findings in one module, and the permitted calls of its declared functions. -/
structure ViolationReport where
  calls : List ViolationRecord
  imports : List ViolationRecord
  undeclaredFunctions : List ViolationRecord
  undefinedFunctions : List ViolationRecord
  undecoratedClasses : List ViolationRecord
  totalCount : Nat
  callGraph : Keyed (List String)
  deriving DecidableEq, Inhabited

namespace ViolationReport

def empty : ViolationReport :=
  ⟨[], [], [], [], [], 0, .empty⟩

/-- File a record under its kind. -/
def record (report : ViolationReport) (entry : ViolationRecord) : ViolationReport :=
  let report := { report with totalCount := report.totalCount + 1 }
  match entry.kind with
  | .call => { report with calls := report.calls ++ [entry] }
  | .importing => { report with imports := report.imports ++ [entry] }
  | .undeclaredFunction => { report with undeclaredFunctions := report.undeclaredFunctions ++ [entry] }
  | .undefinedFunction => { report with undefinedFunctions := report.undefinedFunctions ++ [entry] }
  | .undecoratedClass => { report with undecoratedClasses := report.undecoratedClasses ++ [entry] }

def recordAll (report : ViolationReport) (entries : List ViolationRecord) : ViolationReport :=
  entries.foldl record report

/-- The records of a kind. -/
def bucket (report : ViolationReport) : RecordKind → List ViolationRecord
  | .call => report.calls
  | .importing => report.imports
  | .undeclaredFunction => report.undeclaredFunctions
  | .undefinedFunction => report.undefinedFunctions
  | .undecoratedClass => report.undecoratedClasses

def records (report : ViolationReport) : List ViolationRecord :=
  report.calls ++ report.imports ++ report.undeclaredFunctions ++ report.undefinedFunctions
    ++ report.undecoratedClasses

def isClean (report : ViolationReport) : Bool :=
  report.totalCount == 0

end ViolationReport

structure FileReport where
  file : String
  language : String
  report : ViolationReport
  deriving DecidableEq, Inhabited

/-- A file that could not be analysed. -/
structure FileFailure where
  file : String
  message : String
  deriving DecidableEq, Repr, Inhabited

/-- What a check of files against a contract found. -/
structure CheckResult where
  contract : String
  files : List FileReport
  failures : List FileFailure
  totalCount : Nat
  deriving DecidableEq, Inhabited

namespace CheckResult

def empty (contract : String) : CheckResult :=
  ⟨contract, [], [], 0⟩

def addFile (result : CheckResult) (file : FileReport) : CheckResult :=
  { result with
    files := result.files ++ [file]
    totalCount := result.totalCount + file.report.totalCount }

def addFailure (result : CheckResult) (failure : FileFailure) : CheckResult :=
  { result with failures := result.failures ++ [failure] }

def isClean (result : CheckResult) : Bool :=
  result.totalCount == 0 && result.failures.isEmpty

end CheckResult

/-- Whether a contract is one according to a schema, and the functions it declares. -/
structure SchemaResult where
  contract : String
  schema : String
  valid : Bool
  error : Option String
  functions : List String
  deriving DecidableEq, Repr, Inhabited

end CallPolicy
