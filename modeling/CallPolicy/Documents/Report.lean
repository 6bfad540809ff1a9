import CallPolicy.Documents.CallGraph
import CallPolicy.Report.Basic

/-! JSON documents of reports. -/

set_option autoImplicit false

namespace CallPolicy

open Json

/-- Findings are counted with 64 bits. -/
def countLimit : Nat := 0x10000000000000000

namespace RecordKind

def toJson (kind : RecordKind) : Value :=
  .string kind.name

def decoder : Decoder RecordKind :=
  Decoder.choice ofName?

end RecordKind

namespace ViolationRecord

def toJson (entry : ViolationRecord) : Value :=
  let context :=
    match entry.context with
    | some context => [("context", Value.string context)]
    | none => []
  let line :=
    match entry.line with
    | some line => Value.integer line
    | none => .null
  .object ([("kind", entry.kind.toJson), ("line", line), ("subject", .string entry.subject)] ++ context)

def decoderWith (kind : Decoder RecordKind) : Decoder ViolationRecord :=
  Decoder.record ["kind", "line", "subject", "context"] fun fields => do
    let kind ← fields.required "kind" kind
    let line ← fields.nullable "line" lineDecoder
    let subject ← fields.required "subject" Decoder.text
    let context ← fields.withDefault "context" none (Decoder.optional Decoder.text)
    return ⟨kind, line, subject, context⟩

def decoder : Decoder ViolationRecord :=
  decoderWith RecordKind.decoder

end ViolationRecord

namespace ViolationReport

def recordsToJson (entries : List ViolationRecord) : Value :=
  .list (entries.map (·.toJson))

def members (report : ViolationReport) : List (String × Value) :=
  [("call_violations", recordsToJson report.calls),
    ("import_violations", recordsToJson report.imports),
    ("undeclared_functions", recordsToJson report.undeclaredFunctions),
    ("undefined_functions", recordsToJson report.undefinedFunctions),
    ("undecorated_classes", recordsToJson report.undecoratedClasses),
    ("total_count", .integer report.totalCount),
    ("call_graph", .object (report.callGraph.entries.map fun entry => (entry.1, .strings entry.2)))]

def toJson (report : ViolationReport) : Value :=
  .object report.members

def fieldNames : List String :=
  ["call_violations", "import_violations", "undeclared_functions", "undefined_functions",
    "undecorated_classes", "total_count", "call_graph"]

def ofFields (entry : Decoder ViolationRecord) (fields : Fields) : Option ViolationReport := do
  let calls ← fields.required "call_violations" (Decoder.list entry)
  let imports ← fields.required "import_violations" (Decoder.list entry)
  let undeclaredFunctions ← fields.required "undeclared_functions" (Decoder.list entry)
  let undefinedFunctions ← fields.required "undefined_functions" (Decoder.list entry)
  let undecoratedClasses ← fields.required "undecorated_classes" (Decoder.list entry)
  let totalCount ← fields.required "total_count" (Decoder.natBelow countLimit)
  let callGraph ← fields.required "call_graph" (Decoder.keyed (Decoder.list Decoder.text))
  return { calls, imports, undeclaredFunctions, undefinedFunctions, undecoratedClasses, totalCount, callGraph }

def decoder : Decoder ViolationReport :=
  Decoder.record fieldNames (ofFields ViolationRecord.decoder)

end ViolationReport

namespace FileReport

/-- The report's members stand beside those of the file. -/
def toJson (file : FileReport) : Value :=
  .object ([("file", .string file.file), ("language", .string file.language)] ++ file.report.members)

/-- The members other than the file's name and language. -/
def reportMembers (members : List (Option String × Document)) : List (Option String × Document) :=
  members.filter fun member => member.1 != some "file" && member.1 != some "language"

/-- Members other than the file's own must hold values, whatever their names are. -/
def decoder : Decoder FileReport
  | depth + 1, .object members => do
    Decoder.sound (depth + 1) (.object (reportMembers members))
    let fields ← Fields.ofDocument (["file", "language"] ++ ViolationReport.fieldNames) (depth + 1) (.object members)
    let file ← fields.required "file" Decoder.text
    let language ← fields.required "language" Decoder.text
    let report ← ViolationReport.ofFields
      (ViolationRecord.decoderWith (Decoder.looseChoice RecordKind.ofName?)) fields
    return ⟨file, language, report⟩
  | _, _ => none

end FileReport

namespace FileFailure

def toJson (failure : FileFailure) : Value :=
  .object [("file", .string failure.file), ("message", .string failure.message)]

def decoder : Decoder FileFailure :=
  Decoder.record ["file", "message"] fun fields => do
    return ⟨← fields.required "file" Decoder.text, ← fields.required "message" Decoder.text⟩

end FileFailure

namespace CheckResult

def toJson (result : CheckResult) : Value :=
  .object [("contract", .string result.contract), ("files", .list (result.files.map (·.toJson))),
    ("failures", .list (result.failures.map (·.toJson))), ("total_count", .integer result.totalCount)]

def decoder : Decoder CheckResult :=
  Decoder.record ["contract", "files", "failures", "total_count"] fun fields => do
    return ⟨← fields.required "contract" Decoder.text,
      ← fields.required "files" (Decoder.list FileReport.decoder),
      ← fields.required "failures" (Decoder.list FileFailure.decoder),
      ← fields.required "total_count" (Decoder.natBelow countLimit)⟩

end CheckResult

namespace SchemaResult

def toJson (result : SchemaResult) : Value :=
  let error :=
    match result.error with
    | some message => [("error", Value.string message)]
    | none => []
  .object ([("contract", .string result.contract), ("schema", .string result.schema),
      ("valid", .bool result.valid)] ++ error ++ [("functions", .strings result.functions)])

def decoder : Decoder SchemaResult :=
  Decoder.record ["contract", "schema", "valid", "error", "functions"] fun fields => do
    let contract ← fields.required "contract" Decoder.text
    let schema ← fields.required "schema" Decoder.text
    let valid ← fields.required "valid" Decoder.flag
    let error ← fields.withDefault "error" none (Decoder.optional Decoder.text)
    let functions ← fields.withDefault "functions" [] (Decoder.list Decoder.text)
    return ⟨contract, schema, valid, error, functions⟩

end SchemaResult

end CallPolicy
