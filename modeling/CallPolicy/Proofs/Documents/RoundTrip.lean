import CallPolicy.Documents.Enforcement
import CallPolicy.Documents.Report
import CallPolicy.Proofs.Json.Decoding

/-! Documents of policies, outlines and reports read back.

What is written of a value reads back as that value, in either layout. Nothing is asked of names
and messages; lines and counts must fit the words they are kept in.
-/

set_option autoImplicit false

namespace CallPolicy

open Json

namespace Json

/-- Both layouts of the value are read as the result. -/
structure Decoder.ReadsBack {α : Type} (decoder : Decoder α) (value : Value) (result : α) : Prop where
  compact : decoder.ofText value.compactText = some result
  pretty : decoder.ofText value.prettyText = some result

theorem Decoder.Decodes.readsBack {α : Type} {decoder : Decoder α} {levels : Nat} {value : Value} {result : α}
    (decodes : decoder.Decodes levels value result) (fits : levels ≤ depthLimit) : decoder.ReadsBack value result :=
  ⟨decodes.of_compactText fits, decodes.of_prettyText fits⟩

theorem Decoder.strings_decodes (levels : Nat) (texts : List String) :
    (Decoder.list Decoder.text).Decodes (levels + 1) (.strings texts) texts :=
  Decoder.list_decodes fun text _ => Decoder.text_decodes levels text

end Json

variable (levels : Nat)

/-! ### Schemas and settings -/

theorem Kind.decodes (kind : Kind) : Kind.decoder.Decodes levels kind.toJson kind :=
  Decoder.choice_decodes levels kind.ofName?_name

theorem Schema.kinds_decode (kinds : Keyed Kind) :
    (Decoder.keyed Kind.decoder).Decodes (levels + 1) (kindsToJson kinds) kinds :=
  Decoder.keyed_decodes fun entry _ => entry.2.decodes levels

theorem Schema.decodes (schema : Schema) : Schema.decoder.Decodes (levels + 2) schema.toJson schema := by
  have version := Decoder.text_decodes (levels + 1) schema.version
  have globals := Schema.kinds_decode levels schema.globals
  have functions := Schema.kinds_decode levels schema.functions
  refine Decoder.record_decodes (List.Sublist.refl _) (by decide) ?_ ?_
  · simp [version.written, globals.written, functions.written]
  · intro depth enough
    simp [Decoder.writtenFields, Fields.required, Keyed.look, version.decodes depth enough,
      globals.decodes depth enough, functions.decodes depth enough]

theorem Settings.decodes (settings : Settings) :
    Settings.decoder.Decodes (levels + 2) settings.toJson settings := by
  have version := Decoder.text_decodes (levels + 1) settings.version
  have schema := Decoder.text_decodes (levels + 1) settings.schema
  have marker := Decoder.text_decodes (levels + 1) settings.marker
  have languages := Decoder.strings_decodes levels settings.languages
  have ignored := Decoder.strings_decodes levels settings.ignorePatterns
  refine Decoder.record_decodes (List.Sublist.refl _) (by decide) ?_ ?_
  · simp [version.written, schema.written, marker.written, languages.written, ignored.written]
  · intro depth enough
    simp [Decoder.writtenFields, Fields.withDefault, Keyed.look, version.decodes depth enough,
      schema.decodes depth enough, marker.decodes depth enough, languages.decodes depth enough,
      ignored.decodes depth enough]

/-! ### Call graphs and outlines -/

def CallSite.Fits (site : CallSite) : Prop :=
  site.line < lineLimit

def ImportSite.Fits (site : ImportSite) : Prop :=
  site.line < lineLimit

structure CallGraph.Fits (graph : CallGraph) : Prop where
  calls : ∀ site ∈ graph.calls, site.Fits
  imports : ∀ site ∈ graph.imports, site.Fits

structure FunctionOutline.Fits (function : FunctionOutline) : Prop where
  line : function.line < lineLimit
  graph : function.graph.Fits

def ClassOutline.Fits (entry : ClassOutline) : Prop :=
  entry.line < lineLimit

structure ModuleOutline.Fits (outline : ModuleOutline) : Prop where
  functions : ∀ function ∈ outline.functions, function.Fits
  classes : ∀ entry ∈ outline.classes, entry.Fits
  imports : ∀ site ∈ outline.imports, site.Fits

theorem lineDecoder_decodes {line : Nat} (fits : line < lineLimit) : lineDecoder.Decodes levels (.integer line) line :=
  Decoder.natBelow_decodes levels fits (by decide)

theorem CallSite.decodes {site : CallSite} (fits : site.Fits) :
    CallSite.decoder.Decodes (levels + 1) site.toJson site := by
  have name := Decoder.text_decodes levels site.name
  have line := lineDecoder_decodes levels fits
  refine Decoder.record_decodes (List.Sublist.refl _) (by decide) ?_ ?_
  · simp [name.written, line.written]
  · intro depth enough
    simp [Decoder.writtenFields, Fields.required, Keyed.look, name.decodes depth enough, line.decodes depth enough]

theorem ImportSite.decodes {site : ImportSite} (fits : site.Fits) :
    ImportSite.decoder.Decodes (levels + 1) site.toJson site := by
  have name := Decoder.text_decodes levels site.moduleName
  have line := lineDecoder_decodes levels fits
  refine Decoder.record_decodes (List.Sublist.refl _) (by decide) ?_ ?_
  · simp [name.written, line.written]
  · intro depth enough
    simp [Decoder.writtenFields, Fields.required, Keyed.look, name.decodes depth enough, line.decodes depth enough]

theorem CallGraph.decodes {graph : CallGraph} (fits : graph.Fits) :
    CallGraph.decoder.Decodes (levels + 3) graph.toJson graph := by
  have calls := Decoder.list_decodes fun site member => CallSite.decodes levels (fits.calls site member)
  have imports := Decoder.list_decodes fun site member => ImportSite.decodes levels (fits.imports site member)
  refine Decoder.record_decodes (List.Sublist.refl _) (by decide) ?_ ?_
  · simp [calls.written, imports.written]
  · intro depth enough
    simp [Decoder.writtenFields, Fields.required, Keyed.look, calls.decodes depth enough, imports.decodes depth enough]

theorem FunctionOutline.decodes {function : FunctionOutline} (fits : function.Fits) :
    FunctionOutline.decoder.Decodes (levels + 4) function.toJson function := by
  have name := Decoder.text_decodes (levels + 3) function.name
  have line := lineDecoder_decodes (levels + 3) fits.line
  have graph := CallGraph.decodes levels fits.graph
  refine Decoder.record_decodes (List.Sublist.refl _) (by decide) ?_ ?_
  · simp [name.written, line.written, graph.written]
  · intro depth enough
    simp [Decoder.writtenFields, Fields.required, Keyed.look, name.decodes depth enough, line.decodes depth enough,
      graph.decodes depth enough]

theorem ClassOutline.decodes {entry : ClassOutline} (fits : entry.Fits) :
    ClassOutline.decoder.Decodes (levels + 2) entry.toJson entry := by
  have name := Decoder.text_decodes (levels + 1) entry.name
  have line := lineDecoder_decodes (levels + 1) fits
  have markers := Decoder.strings_decodes levels entry.markers
  refine Decoder.record_decodes (List.Sublist.refl _) (by decide) ?_ ?_
  · simp [name.written, line.written, markers.written]
  · intro depth enough
    simp [Decoder.writtenFields, Fields.required, Keyed.look, name.decodes depth enough, line.decodes depth enough,
      markers.decodes depth enough]

theorem ModuleOutline.decodes {outline : ModuleOutline} (fits : outline.Fits) :
    ModuleOutline.decoder.Decodes (levels + 6) outline.toJson outline := by
  have functions := Decoder.list_decodes fun function member =>
    FunctionOutline.decodes levels (fits.functions function member)
  have classes := Decoder.list_decodes fun entry member =>
    ClassOutline.decodes (levels + 2) (fits.classes entry member)
  have imports := Decoder.list_decodes fun site member =>
    ImportSite.decodes (levels + 3) (fits.imports site member)
  refine Decoder.record_decodes (List.Sublist.refl _) (by decide) ?_ ?_
  · simp [functions.written, classes.written, imports.written]
  · intro depth enough
    simp [Decoder.writtenFields, Fields.required, Keyed.look, functions.decodes depth enough,
      classes.decodes depth enough, imports.decodes depth enough]

/-! ### Reports -/

def ViolationRecord.Fits (entry : ViolationRecord) : Prop :=
  ∀ line ∈ entry.line, line < lineLimit

structure ViolationReport.Fits (report : ViolationReport) : Prop where
  entries : ∀ kind, ∀ entry ∈ report.bucket kind, entry.Fits
  count : report.totalCount < countLimit

structure CheckResult.Fits (result : CheckResult) : Prop where
  files : ∀ file ∈ result.files, file.report.Fits
  count : result.totalCount < countLimit

theorem RecordKind.ofName?_name (kind : RecordKind) : ofName? kind.name = some kind := by
  cases kind <;> decide +kernel

theorem RecordKind.decodes (kind : RecordKind) : RecordKind.decoder.Decodes levels kind.toJson kind :=
  Decoder.choice_decodes levels kind.ofName?_name

theorem RecordKind.loosely_decodes (kind : RecordKind) :
    (Decoder.looseChoice RecordKind.ofName?).Decodes levels kind.toJson kind :=
  Decoder.looseChoice_decodes levels kind.ofName?_name

/-- A line, or `null` where there is none. -/
theorem optionalLine_decodes {line : Option Nat} (fits : ∀ number ∈ line, number < lineLimit) :
    (Decoder.optional lineDecoder).Decodes levels (line.elim .null fun number => .integer number) line := by
  cases line with
  | none => exact Decoder.optional_null_decodes levels lineDecoder
  | some number => exact Decoder.optional_decodes (lineDecoder_decodes levels (fits number rfl)) (by simp)

theorem optionalText_decodes (text : String) :
    (Decoder.optional Decoder.text).Decodes levels (.string text) (some text) :=
  Decoder.optional_decodes (Decoder.text_decodes levels text) (by simp)

theorem ViolationRecord.toJson_eq (entry : ViolationRecord) :
    entry.toJson = .object ([("kind", entry.kind.toJson), ("line", entry.line.elim .null fun number => .integer number),
      ("subject", .string entry.subject)] ++ entry.context.elim [] fun context => [("context", .string context)]) := by
  unfold toJson
  cases entry.line <;> cases entry.context <;> rfl

/-- A record reads back however its kind is read. -/
theorem ViolationRecord.decodes {entry : ViolationRecord} (fits : entry.Fits) {kindDecoder : Decoder RecordKind}
    (kind : kindDecoder.Decodes levels entry.kind.toJson entry.kind) :
    (decoderWith kindDecoder).Decodes (levels + 1) entry.toJson entry := by
  have line := optionalLine_decodes levels fits
  have subject := Decoder.text_decodes levels entry.subject
  rw [entry.toJson_eq]
  obtain ⟨_, _, _, given⟩ := entry
  cases given with
  | none =>
    refine Decoder.record_decodes (by simp) (by decide) ?_ ?_
    · simp [kind.written, line.written, subject.written]
    · intro depth enough
      simp [Decoder.writtenFields, Fields.required, Fields.nullable, Fields.withDefault, Keyed.look,
        kind.decodes depth enough, line.decodes depth enough, subject.decodes depth enough]
  | some text =>
    have context := optionalText_decodes levels text
    refine Decoder.record_decodes (by simp) (by decide) ?_ ?_
    · simp [kind.written, line.written, subject.written, context.written]
    · intro depth enough
      simp [Decoder.writtenFields, Fields.required, Fields.nullable, Fields.withDefault, Keyed.look,
        kind.decodes depth enough, line.decodes depth enough, subject.decodes depth enough,
        context.decodes depth enough]

/-- The records of one kind. -/
theorem ViolationReport.records_decode {entryDecoder : Decoder ViolationRecord} {records : List ViolationRecord}
    (entries : ∀ entry : ViolationRecord, entry.Fits → entryDecoder.Decodes (levels + 1) entry.toJson entry)
    (fits : ∀ entry ∈ records, entry.Fits) :
    (Decoder.list entryDecoder).Decodes (levels + 2) (recordsToJson records) records :=
  Decoder.list_decodes fun entry member => entries entry (fits entry member)

theorem ViolationReport.callGraph_decodes (report : ViolationReport) :
    (Decoder.keyed (Decoder.list Decoder.text)).Decodes (levels + 2)
      (.object (report.callGraph.entries.map fun entry => (entry.1, .strings entry.2))) report.callGraph :=
  Decoder.keyed_decodes fun entry _ => Decoder.strings_decodes levels entry.2

section

variable {report : ViolationReport} {entryDecoder : Decoder ViolationRecord}
  (entries : ∀ entry : ViolationRecord, entry.Fits → entryDecoder.Decodes (levels + 1) entry.toJson entry)
  (fits : report.Fits)

include entries fits

theorem ViolationReport.members_written : ∀ entry ∈ report.members, entry.2.WrittenWithin (levels + 2) := by
  have calls := records_decode levels entries (fits.entries .call)
  have imports := records_decode levels entries (fits.entries .importing)
  have undeclared := records_decode levels entries (fits.entries .undeclaredFunction)
  have undefined := records_decode levels entries (fits.entries .undefinedFunction)
  have undecorated := records_decode levels entries (fits.entries .undecoratedClass)
  have count := Decoder.natBelow_decodes (levels + 2) fits.count (by decide)
  simp only [members, List.forall_mem_cons]
  exact ⟨calls.written, imports.written, undeclared.written, undefined.written, undecorated.written, count.written,
    (report.callGraph_decodes levels).written, by simp⟩

/-- A report is made of its fields, whatever other fields stand before them. -/
theorem ViolationReport.ofFields_members (front : List (String × Value))
    (others : ∀ name ∈ fieldNames, name ∉ front.map (·.1)) {depth : Nat} (enough : levels + 2 ≤ depth) :
    ofFields entryDecoder (Decoder.writtenFields depth (front ++ report.members)) = some report := by
  have calls := (records_decode levels entries (fits.entries .call)).decodes depth enough
  have imports := (records_decode levels entries (fits.entries .importing)).decodes depth enough
  have undeclared := (records_decode levels entries (fits.entries .undeclaredFunction)).decodes depth enough
  have undefined := (records_decode levels entries (fits.entries .undefinedFunction)).decodes depth enough
  have undecorated := (records_decode levels entries (fits.entries .undecoratedClass)).decodes depth enough
  have count := (Decoder.natBelow_decodes (levels + 2) fits.count (by decide)).decodes depth enough
  have callGraph := (report.callGraph_decodes levels).decodes depth enough
  have absent : ∀ name ∈ fieldNames, Keyed.look name (front.map fun entry => (entry.1, entry.2.document)) = none :=
    fun name member => Decoder.look_eq_none (by simpa using others name member)
  simp only [bucket] at calls imports undeclared undefined undecorated
  simp only [fieldNames, List.forall_mem_cons] at absent
  simp [members, ofFields, Decoder.writtenFields, Fields.required, Keyed.look_append, Keyed.look, absent, calls,
    imports, undeclared, undefined, undecorated, count, callGraph]

end

theorem ViolationReport.decodes {report : ViolationReport} (fits : report.Fits) :
    ViolationReport.decoder.Decodes (levels + 3) report.toJson report := by
  have entries := fun entry : ViolationRecord => fun fits : entry.Fits =>
    ViolationRecord.decodes levels fits (entry.kind.decodes levels)
  exact Decoder.record_decodes (List.Sublist.refl _) (by decide) (members_written levels entries fits) fun _ =>
    ofFields_members levels entries fits [] (by simp)

/-- The members that are left for the report are the report's. -/
theorem FileReport.reportMembers_written (file language : Value) (report : ViolationReport) :
    reportMembers (Value.memberDocuments ([("file", file), ("language", language)] ++ report.members)) =
      Value.memberDocuments report.members := by
  simp [reportMembers, Value.memberDocuments, ViolationReport.members]

theorem FileReport.decodes {file : FileReport} (fits : file.report.Fits) :
    FileReport.decoder.Decodes (levels + 3) file.toJson file := by
  have entries := fun entry : ViolationRecord => fun fits : entry.Fits =>
    ViolationRecord.decodes levels fits (entry.kind.loosely_decodes levels)
  have name := Decoder.text_decodes (levels + 2) file.file
  have language := Decoder.text_decodes (levels + 2) file.language
  have report := ViolationReport.members_written levels entries fits
  have record : (Decoder.record (["file", "language"] ++ ViolationReport.fieldNames) fun fields => do
      let file ← fields.required "file" Decoder.text
      let language ← fields.required "language" Decoder.text
      let report ← ViolationReport.ofFields (ViolationRecord.decoderWith (Decoder.looseChoice RecordKind.ofName?)) fields
      return FileReport.mk file language report).Decodes (levels + 3) file.toJson file := by
    refine Decoder.record_decodes (List.Sublist.refl _) (by decide) ?_ ?_
    · simp only [List.cons_append, List.nil_append, List.forall_mem_cons]
      exact ⟨name.written, language.written, report⟩
    · intro depth enough
      rw [ViolationReport.ofFields_members levels entries fits _ (by simp [ViolationReport.fieldNames]) enough]
      simp [Decoder.writtenFields, Fields.required, Keyed.look, name.decodes depth enough, language.decodes depth enough]
  refine ⟨record.written, fun depth enough => ?_⟩
  cases depth with
  | zero => cases enough
  | succ depth =>
    have sound := Decoder.sound_document (.object report) enough
    have read := record.decodes (depth + 1) enough
    rw [Value.document] at sound
    rw [toJson, Value.document] at read ⊢
    rw [decoder, reportMembers_written, sound]
    exact read

theorem FileFailure.decodes (failure : FileFailure) :
    FileFailure.decoder.Decodes (levels + 1) failure.toJson failure := by
  have file := Decoder.text_decodes levels failure.file
  have message := Decoder.text_decodes levels failure.message
  refine Decoder.record_decodes (List.Sublist.refl _) (by decide) ?_ ?_
  · simp [file.written, message.written]
  · intro depth enough
    simp [Decoder.writtenFields, Fields.required, Keyed.look, file.decodes depth enough, message.decodes depth enough]

theorem CheckResult.decodes {result : CheckResult} (fits : result.Fits) :
    CheckResult.decoder.Decodes (levels + 5) result.toJson result := by
  have contract := Decoder.text_decodes (levels + 4) result.contract
  have files := Decoder.list_decodes fun file member => FileReport.decodes levels (fits.files file member)
  have failures := Decoder.list_decodes fun (failure : FileFailure) (_ : failure ∈ result.failures) =>
    failure.decodes (levels + 2)
  have count := Decoder.natBelow_decodes (levels + 4) fits.count (by decide)
  refine Decoder.record_decodes (List.Sublist.refl _) (by decide) ?_ ?_
  · simp [contract.written, files.written, failures.written, count.written]
  · intro depth enough
    simp [Decoder.writtenFields, Fields.required, Keyed.look, contract.decodes depth enough,
      files.decodes depth enough, failures.decodes depth enough, count.decodes depth enough]

theorem SchemaResult.decodes (result : SchemaResult) :
    SchemaResult.decoder.Decodes (levels + 2) result.toJson result := by
  have contract := Decoder.text_decodes (levels + 1) result.contract
  have schema := Decoder.text_decodes (levels + 1) result.schema
  have valid := Decoder.flag_decodes (levels + 1) result.valid
  have functions := Decoder.strings_decodes levels result.functions
  obtain ⟨_, _, _, given, _⟩ := result
  cases given with
  | none =>
    refine Decoder.record_decodes (by simp) (by decide) ?_ ?_
    · simp [contract.written, schema.written, valid.written, functions.written]
    · intro depth enough
      simp [Decoder.writtenFields, Fields.required, Fields.withDefault, Keyed.look, contract.decodes depth enough,
        schema.decodes depth enough, valid.decodes depth enough, functions.decodes depth enough]
  | some message =>
    have error := optionalText_decodes (levels + 1) message
    refine Decoder.record_decodes (by simp) (by decide) ?_ ?_
    · simp [contract.written, schema.written, valid.written, error.written, functions.written]
    · intro depth enough
      simp [Decoder.writtenFields, Fields.required, Fields.withDefault, Keyed.look, contract.decodes depth enough,
        schema.decodes depth enough, valid.decodes depth enough, error.decodes depth enough,
        functions.decodes depth enough]

theorem FunctionError.decodes (error : FunctionError) :
    FunctionError.decoder.Decodes (levels + 1) error.toJson error := by
  have message := Decoder.text_decodes levels error.message
  refine Decoder.record_decodes (List.Sublist.refl _) (by decide) ?_ ?_
  · simp [message.written]
  · intro depth enough
    simp [Decoder.writtenFields, Fields.required, Keyed.look, message.decodes depth enough]

/-! ### Every document -/

/-- Decoders undo the writing of policies, outlines and reports, in one line or indented. Lines of
32 bits and counts of 64 bits are all that is asked. -/
theorem documents_read_back :
    (∀ schema : Schema, Schema.decoder.ReadsBack schema.toJson schema) ∧
    (∀ settings : Settings, Settings.decoder.ReadsBack settings.toJson settings) ∧
    (∀ graph : CallGraph, graph.Fits → CallGraph.decoder.ReadsBack graph.toJson graph) ∧
    (∀ outline : ModuleOutline, outline.Fits → ModuleOutline.decoder.ReadsBack outline.toJson outline) ∧
    (∀ error : FunctionError, FunctionError.decoder.ReadsBack error.toJson error) ∧
    (∀ entry : ViolationRecord, entry.Fits → ViolationRecord.decoder.ReadsBack entry.toJson entry) ∧
    (∀ report : ViolationReport, report.Fits → ViolationReport.decoder.ReadsBack report.toJson report) ∧
    (∀ file : FileReport, file.report.Fits → FileReport.decoder.ReadsBack file.toJson file) ∧
    (∀ failure : FileFailure, FileFailure.decoder.ReadsBack failure.toJson failure) ∧
    (∀ result : CheckResult, result.Fits → CheckResult.decoder.ReadsBack result.toJson result) ∧
    (∀ result : SchemaResult, SchemaResult.decoder.ReadsBack result.toJson result) := by
  refine ⟨fun schema => ?_, fun settings => ?_, fun graph fits => ?_, fun outline fits => ?_, fun error => ?_,
    fun entry fits => ?_, fun report fits => ?_, fun file fits => ?_, fun failure => ?_, fun result fits => ?_,
    fun result => ?_⟩
  · exact (schema.decodes 0).readsBack (by decide)
  · exact (settings.decodes 0).readsBack (by decide)
  · exact (CallGraph.decodes 0 fits).readsBack (by decide)
  · exact (ModuleOutline.decodes 0 fits).readsBack (by decide)
  · exact (error.decodes 0).readsBack (by decide)
  · exact (ViolationRecord.decodes 0 fits (entry.kind.decodes 0)).readsBack (by decide)
  · exact (ViolationReport.decodes 0 fits).readsBack (by decide)
  · exact (FileReport.decodes 0 fits).readsBack (by decide)
  · exact (failure.decodes 0).readsBack (by decide)
  · exact (CheckResult.decodes 0 fits).readsBack (by decide)
  · exact (result.decodes 0).readsBack (by decide)

section

/-- A forbidden call at the greatest line. -/
def lastCall : ViolationRecord :=
  ⟨.call, some 4294967295, "exec", some "größe"⟩

/-- The other record has no line. -/
def troubledReport : ViolationReport :=
  { ViolationReport.empty with
    calls := [lastCall]
    undefinedFunctions := [⟨.undefinedFunction, none, "計算", none⟩]
    totalCount := 2
    callGraph := .ofList [("größe", ["open", "print"])] }

/-- A check whose texts need escapes. -/
def troubledCheck : CheckResult where
  contract := "calc \"strict\".json"
  files := [⟨"a\tb.py", "python", troubledReport⟩]
  failures := [⟨"c.rs", "line 1\nunexpected"⟩]
  totalCount := 2

def importingGraph : CallGraph :=
  ⟨[⟨"open", 4294967295⟩], [⟨"os.path", 7⟩]⟩

/-- A module with an import of its own and one in a function. -/
def importingOutline : ModuleOutline where
  functions := [⟨"größe", 4294967295, importingGraph⟩]
  classes := [⟨"Calculator", 3, ["enforce_contract"]⟩]
  imports := [⟨"json", 1⟩]

theorem documents_of_troubled_check :
    CallGraph.decoder.ReadsBack importingGraph.toJson importingGraph ∧
    ModuleOutline.decoder.ReadsBack importingOutline.toJson importingOutline ∧
    ViolationRecord.decoder.ReadsBack lastCall.toJson lastCall ∧
    ViolationReport.decoder.ReadsBack troubledReport.toJson troubledReport ∧
    (∀ file ∈ troubledCheck.files, FileReport.decoder.ReadsBack file.toJson file) ∧
    CheckResult.decoder.ReadsBack troubledCheck.toJson troubledCheck := by
  have graph : importingGraph.Fits :=
    ⟨by simp [importingGraph, CallSite.Fits, lineLimit], by simp [importingGraph, ImportSite.Fits, lineLimit]⟩
  have outline : importingOutline.Fits :=
    ⟨List.forall_mem_singleton.2 ⟨by decide, graph⟩, by simp [importingOutline, ClassOutline.Fits, lineLimit],
      by simp [importingOutline, ImportSite.Fits, lineLimit]⟩
  have call : lastCall.Fits := by simp [lastCall, ViolationRecord.Fits, lineLimit]
  have unplaced : ViolationRecord.Fits ⟨.undefinedFunction, none, "計算", none⟩ := nofun
  have report : troubledReport.Fits := by
    refine ⟨fun kind => ?_, by decide⟩
    cases kind <;> simp [troubledReport, ViolationReport.bucket, ViolationReport.empty, call, unplaced]
  have files : ∀ file ∈ troubledCheck.files, file.report.Fits := List.forall_mem_singleton.2 report
  obtain ⟨_, _, graphs, outlines, _, records, reports, fileReports, _, checks, _⟩ := documents_read_back
  exact ⟨graphs _ graph, outlines _ outline, records _ call, reports _ report,
    fun file member => fileReports file (files file member), checks _ ⟨files, by decide⟩⟩

end

end CallPolicy
