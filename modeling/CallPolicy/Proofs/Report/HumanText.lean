import CallPolicy.Proofs.CommandLine.Verdict
import CallPolicy.Proofs.Report.Totals

/-! What a report for people shows of the findings.

A file is shown when the count of its report is not zero, its records are taken from the sections, and the total is
kept by the result. The three agree where records are filed one after the other.
-/

set_option autoImplicit false

namespace CallPolicy

/-- What has no text can be left out. -/
theorem join_map_filter {α : Type} {text : α → String} {shown : α → Bool} (items : List α)
    (silent : ∀ item ∈ items, shown item = false → text item = "") :
    String.join (items.map text) = String.join ((items.filter shown).map text) := by
  induction items with
  | nil => rfl
  | cons item rest ih =>
    have later := ih fun other member => silent other (List.mem_cons_of_mem item member)
    rw [List.map_cons, String.join_cons, List.filter_cons, later]
    cases known : shown item with
    | true => simp
    | false => simp [silent item List.mem_cons_self known]

namespace ViolationReport

/-- A report in which the entries have been filed, one after the other. -/
inductive Filled : List ViolationRecord → ViolationReport → Prop where
  | empty : Filled [] .empty
  | record {entries : List ViolationRecord} {report : ViolationReport} (entry : ViolationRecord) :
    Filled entries report → Filled (entries ++ [entry]) (report.record entry)
  | callGraph {entries : List ViolationRecord} {report : ViolationReport} (callGraph : Keyed (List String)) :
    Filled entries report → Filled entries { report with callGraph }

variable {report : ViolationReport} {entries : List ViolationRecord}

theorem Filled.lists (filled : report.Filled entries) : report.Lists entries := by
  induction filled with
  | empty => exact lists_empty
  | record entry _ ih => exact ih.record entry
  | callGraph callGraph _ ih => exact ih.callGraph callGraph

theorem Filled.recordAll (filled : report.Filled entries) (more : List ViolationRecord) :
    (report.recordAll more).Filled (entries ++ more) := by
  induction more generalizing report entries with
  | nil => rwa [List.append_nil]
  | cons entry rest ih =>
    rw [List.append_cons]
    exact ih (filled.record entry)

theorem Filled.isClean (filled : report.Filled entries) : report.isClean = report.records.isEmpty := by
  rw [ViolationReport.isClean, ← filled.lists.records_length]
  cases report.records <;> rfl

theorem Filled.filed_by_kind (filled : report.Filled entries) : report.Filed := by
  intro kind entry member
  rw [filled.lists.of_kind] at member
  exact eq_of_beq (List.mem_filter.1 member).2

/-! ### Sections -/

/-- The records of a report under titles, in the order of the report. A kind has a title if there are records of it,
and then it has one. -/
structure Sectioned (report : ViolationReport) (sections : List (RecordKind × List ViolationRecord)) : Prop where
  in_order : sections.flatMap (·.2) = report.records
  of_kind : ∀ kind entries, (kind, entries) ∈ sections → ∀ entry ∈ entries, entry.kind = kind
  titled : ∀ kind, kind ∈ sections.map (·.1) ↔ ∃ entry ∈ report.records, entry.kind = kind
  titled_once : (sections.map (·.1)).Nodup

/-- The kinds that have records. -/
def shownKinds (report : ViolationReport) : List RecordKind :=
  RecordKind.sections.filter fun kind => !(report.bucket kind).isEmpty

def sections (report : ViolationReport) : List (RecordKind × List ViolationRecord) :=
  report.shownKinds.map fun kind => (kind, report.bucket kind)

theorem mem_shownKinds (kind : RecordKind) : kind ∈ report.shownKinds ↔ report.bucket kind ≠ [] := by
  have listed : kind ∈ RecordKind.sections := by cases kind <;> decide
  simp [shownKinds, listed]

theorem map_fst_sections (report : ViolationReport) : report.sections.map (·.1) = report.shownKinds := by
  rw [sections, List.map_map]
  exact List.map_id _

theorem flatMap_shownKinds (report : ViolationReport) : report.shownKinds.flatMap report.bucket = report.records := by
  rw [records_eq_flatMap, shownKinds]
  -- The titles stand in the order of the records.
  change (RecordKind.all.filter _).flatMap report.bucket = _
  induction RecordKind.all with
  | nil => rfl
  | cons kind rest ih =>
    rw [List.filter_cons, List.flatMap_cons, ← ih]
    cases filed : report.bucket kind <;> simp [filed]

theorem sectioned_sections (filed : report.Filed) : report.Sectioned report.sections where
  in_order := by rw [sections, List.flatMap_map, flatMap_shownKinds]
  of_kind := by
    intro kind entries member
    obtain ⟨shown, _, same⟩ := List.mem_map.1 member
    cases same
    exact filed kind
  titled := by
    intro kind
    rw [map_fst_sections, mem_shownKinds, ← filed.records_of_kind, ne_eq, List.filter_eq_nil_iff]
    simp
  titled_once := by
    rw [map_fst_sections]
    exact List.Nodup.filter _ (by decide)

/-- A title over the entries of its records. -/
def sectionEntries : RecordKind × List ViolationRecord → String
  | (kind, entries) => kind.heading ++ String.join (entries.map (·.text)) ++ "\n"

theorem text_eq_sections (report : ViolationReport) : report.text = String.join (report.sections.map sectionEntries) := by
  have silent : ∀ kind ∈ RecordKind.sections, (!(report.bucket kind).isEmpty) = false → report.sectionText kind = "" := by
    intro kind _ shown
    have unfiled : (report.bucket kind).isEmpty = true := by simpa using shown
    rw [sectionText, if_pos unfiled]
  have written : ∀ kind ∈ report.shownKinds, report.sectionText kind = sectionEntries (kind, report.bucket kind) := by
    intro kind shown
    rw [sectionText, if_neg (mt List.isEmpty_iff.1 ((mem_shownKinds kind).1 shown)), sectionEntries]
  rw [text, join_map_filter _ silent, sections, List.map_map]
  exact congrArg String.join (List.map_congr_left written)

end ViolationReport

theorem Analysis.filled_report (contract : Contract) (marker : String) (outline : ModuleOutline) :
    (report contract marker outline).Filled (findings contract marker outline) :=
  (ViolationReport.Filled.empty.recordAll _).callGraph _

/-! ### Results -/

namespace CheckResult

/-- A result put together from reports in which records have been filed, and from failures. -/
inductive Assembled : CheckResult → Prop where
  | empty (contract : String) : Assembled (.empty contract)
  | file {result : CheckResult} {file : FileReport} {entries : List ViolationRecord} :
    Assembled result → file.report.Filled entries → Assembled (result.addFile file)
  | failure {result : CheckResult} (failure : FileFailure) : Assembled result → Assembled (result.addFailure failure)

variable {result : CheckResult}

theorem Assembled.addChecked {contract : Contract} {marker : String} {listing : CommandLine.Listing}
    {entry : Except FileFailure FileReport} (assembled : result.Assembled)
    (entered : listing.Entry contract marker entry) : (CommandLine.addChecked result entry).Assembled := by
  cases entered with
  | unreadable source cause => exact assembled.failure _
  | unparsable failed => exact assembled.failure _
  | reported analysed =>
    rw [(analyze_eq_ok analysed).2]
    exact assembled.file (Analysis.filled_report _ _ _)

/-- What a check of files finds is put together so. -/
theorem assembled_checkResult (contract : Contract) (path marker : String) (found : List CommandLine.Listing) :
    (CommandLine.checkResult contract path marker found).Assembled := by
  have assembled : (empty path).Assembled := .empty path
  rw [CommandLine.checkResult]
  generalize empty path = result at assembled
  induction found generalizing result with
  | nil => exact assembled
  | cons listing rest ih =>
    rw [List.map_cons, List.foldl_cons]
    apply ih
    exact assembled.addChecked (listing.entry_checkText contract marker)

theorem Assembled.filled (assembled : result.Assembled) :
    ∀ file ∈ result.files, ∃ entries, file.report.Filled entries := by
  induction assembled with
  | empty contract => exact List.forall_mem_nil _
  | file _ filled ih =>
    refine List.forall_mem_append.2 ⟨ih, ?_⟩
    exact List.forall_mem_singleton.2 ⟨_, filled⟩
  | failure _ _ ih => exact ih

theorem Assembled.totalCount (assembled : result.Assembled) :
    result.totalCount = (result.files.flatMap (·.report.records)).length := by
  induction assembled with
  | empty contract => rfl
  | file _ filled ih =>
    simp only [addFile, List.flatMap_append, List.length_append, ih, List.flatMap_singleton, filled.lists.records_length]
  | failure _ _ ih => exact ih

/-- The files with a record. -/
def filesWithRecords (result : CheckResult) : List FileReport :=
  result.files.filter fun file => !file.report.records.isEmpty

theorem flatMap_filesWithRecords (result : CheckResult) :
    result.filesWithRecords.flatMap (·.report.records) = result.files.flatMap (·.report.records) := by
  rw [filesWithRecords]
  induction result.files with
  | nil => rfl
  | cons file rest ih =>
    rw [List.filter_cons, List.flatMap_cons, ← ih]
    cases recorded : file.report.records <;> simp [recorded]

theorem Assembled.filesText (assembled : result.Assembled) :
    String.join (result.files.map (·.text)) = String.join (result.filesWithRecords.map fun file =>
      file.file ++ "\n\n" ++ String.join (file.report.sections.map ViolationReport.sectionEntries)) := by
  have clean : ∀ file ∈ result.files, file.report.isClean = file.report.records.isEmpty := by
    intro file member
    obtain ⟨entries, filled⟩ := assembled.filled file member
    exact filled.isClean
  have silent : ∀ file ∈ result.files, (!file.report.records.isEmpty) = false → file.text = "" := by
    intro file member shown
    have unrecorded : file.report.records.isEmpty = true := by simpa using shown
    rw [FileReport.text, clean file member, if_pos unrecorded]
  have written : ∀ file ∈ result.filesWithRecords, file.text =
      file.file ++ "\n\n" ++ String.join (file.report.sections.map ViolationReport.sectionEntries) := by
    intro file shown
    obtain ⟨member, recorded⟩ := List.mem_filter.1 shown
    have unclean : ¬file.report.records.isEmpty = true := by simpa using recorded
    rw [FileReport.text, clean file member, if_neg unclean, ViolationReport.text_eq_sections]
  rw [join_map_filter _ silent]
  exact congrArg String.join (List.map_congr_left written)

/-- The report shows the files that have records, in their order: the name of each, and under one title for each kind
the entries of its records, in the order of the records. No other file is shown. Then come the failures, and the
number of the entries of records. -/
theorem text_shows_findings (result : CheckResult) (assembled : result.Assembled) :
    ∃ sections : FileReport → List (RecordKind × List ViolationRecord),
      (∀ file ∈ result.files, file.report.Sectioned (sections file)) ∧
      (∀ file ∈ result.files, ∀ filed, file.report.Filled filed → ((sections file).flatMap (·.2)).Perm filed) ∧
      result.text =
        String.join (result.filesWithRecords.map fun file =>
            file.file ++ "\n\n" ++ String.join ((sections file).map ViolationReport.sectionEntries))
          ++ String.join (result.failures.map (·.text)) ++ (if result.failures = [] then "" else "\n")
          ++ "Total Violations: "
          ++ toString (result.filesWithRecords.flatMap fun file => (sections file).flatMap (·.2)).length ++ "\n" := by
  have sectioned : ∀ file ∈ result.files, file.report.Sectioned file.report.sections := by
    intro file member
    obtain ⟨entries, filled⟩ := assembled.filled file member
    exact ViolationReport.sectioned_sections filled.filed_by_kind
  have counted : result.totalCount =
      (result.filesWithRecords.flatMap fun file => file.report.sections.flatMap (·.2)).length := by
    rw [assembled.totalCount, ← flatMap_filesWithRecords]
    refine congrArg List.length (List.flatMap_congr fun file shown => ?_)
    exact (sectioned file (List.mem_filter.1 shown).1).in_order.symm
  have failed : result.failuresText =
      String.join (result.failures.map (·.text)) ++ (if result.failures = [] then "" else "\n") := by
    rw [failuresText]
    cases result.failures <;> simp
  refine ⟨fun file => file.report.sections, sectioned, ?_, ?_⟩
  · intro file member filed filled
    rw [(sectioned file member).in_order]
    exact filled.lists.permuted
  · rw [text, assembled.filesText, failed, counted]
    simp only [String.append_assoc]

section

/-- Findings of two kinds, filed in the order in which they were found. -/
def calculatorReport : ViolationReport :=
  .recordAll .empty [⟨.importing, some 2, "os", none⟩, ⟨.call, some 6, "exec", some "calculate"⟩,
    ⟨.importing, some 3, "sys", none⟩]

/-- A module with findings, a file that does not parse, and a module without findings. -/
def calculatorCheck : CheckResult :=
  (((empty "calc.json").addFile ⟨"calculator.py", "python", calculatorReport⟩).addFailure
    ⟨"broken.py", "python syntax error near line 3"⟩).addFile ⟨"clean.py", "python", .empty⟩

theorem assembled_calculatorCheck : calculatorCheck.Assembled := by
  have filled : calculatorReport.Filled _ := ViolationReport.Filled.empty.recordAll _
  exact .file (.failure _ (.file (.empty _) filled)) .empty

/-- The call comes before the imports, and the module without findings is not named. -/
theorem text_of_calculatorCheck :
    calculatorCheck.text =
        "calculator.py\n\nCall violations\n---------------\n"
          ++ "error (Line: 6): function `exec` called in `calculate` but not allowed in contract\n\n"
          ++ "Import violations\n-----------------\n"
          ++ "error (Line: 2): `os` imported but not allowed in contract\n"
          ++ "error (Line: 3): `sys` imported but not allowed in contract\n\n"
          ++ "error: broken.py: python syntax error near line 3\n\nTotal Violations: 3\n" ∧
      ∃ sections : FileReport → List (RecordKind × List ViolationRecord),
        (∀ file ∈ calculatorCheck.files, file.report.Sectioned (sections file)) ∧
        (∀ file ∈ calculatorCheck.files, ∀ filed, file.report.Filled filed → ((sections file).flatMap (·.2)).Perm filed) ∧
        calculatorCheck.text =
          String.join (calculatorCheck.filesWithRecords.map fun file =>
              file.file ++ "\n\n" ++ String.join ((sections file).map ViolationReport.sectionEntries))
            ++ String.join (calculatorCheck.failures.map (·.text)) ++ (if calculatorCheck.failures = [] then "" else "\n")
            ++ "Total Violations: "
            ++ toString (calculatorCheck.filesWithRecords.flatMap fun file => (sections file).flatMap (·.2)).length
            ++ "\n" :=
  ⟨by decide +kernel, text_shows_findings calculatorCheck assembled_calculatorCheck⟩

end

end CheckResult

end CallPolicy
