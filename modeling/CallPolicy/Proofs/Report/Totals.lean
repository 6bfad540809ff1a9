import CallPolicy.Proofs.Report.Filing
import Mathlib.Algebra.GroupWithZero.Nat

/-! Filing loses nothing.

The counts of reports and of results are kept beside the lists that they count. They agree with them
whatever is filed, in whichever order.
-/

set_option autoImplicit false

namespace CallPolicy

namespace ViolationReport

/-- A report of entries that were filed in this order: each kind has its own ones in that order, and
the records are those of the kinds one after another. -/
structure Lists (report : ViolationReport) (entries : List ViolationRecord) : Prop where
  of_kind : ∀ kind, report.bucket kind = entries.filter (·.kind == kind)
  in_kind_order : report.records = RecordKind.all.flatMap fun kind => entries.filter (·.kind == kind)
  permuted : report.records.Perm entries
  counted : report.totalCount = entries.length
  clean : report.isClean = true ↔ entries = []

theorem lists_of_counted {report : ViolationReport} {entries : List ViolationRecord}
    (of_kind : ∀ kind, report.bucket kind = entries.filter (·.kind == kind))
    (counted : report.totalCount = entries.length) : report.Lists entries where
  of_kind := of_kind
  in_kind_order := by rw [records_eq_flatMap, funext of_kind]
  permuted := by
    rw [records_eq_flatMap, funext of_kind]
    exact RecordKind.flatMap_filter_perm entries
  counted := counted
  clean := by rw [isClean, counted, beq_iff_eq, List.length_eq_zero_iff]

theorem Lists.records_length {report : ViolationReport} {entries : List ViolationRecord}
    (lists : report.Lists entries) : report.records.length = report.totalCount := by
  rw [lists.counted, lists.permuted.length_eq]

theorem lists_empty : empty.Lists [] :=
  lists_of_counted (by rintro ⟨⟩ <;> rfl) rfl

theorem Lists.record {report : ViolationReport} {entries : List ViolationRecord} (lists : report.Lists entries)
    (entry : ViolationRecord) : (report.record entry).Lists (entries ++ [entry]) := by
  apply lists_of_counted
  · intro kind
    rw [record_bucket, lists.of_kind, List.filter_append, List.filter_singleton]
    cases entry.kind == kind <;> rfl
  · rw [record_totalCount, lists.counted, List.length_append, List.length_singleton]

theorem Lists.recordAll {report : ViolationReport} {entries : List ViolationRecord} (lists : report.Lists entries)
    (more : List ViolationRecord) : (report.recordAll more).Lists (entries ++ more) := by
  induction more generalizing report entries with
  | nil => rwa [List.append_nil]
  | cons entry rest ih =>
    rw [List.append_cons]
    exact ih (lists.record entry)

theorem Lists.callGraph {report : ViolationReport} {entries : List ViolationRecord} (lists : report.Lists entries)
    (callGraph : Keyed (List String)) : Lists { report with callGraph } entries := by
  apply lists_of_counted
  · intro kind
    rw [← lists.of_kind]
    cases kind <;> rfl
  · exact lists.counted

end ViolationReport

/-- The findings in a file, in the order in which they are filed, and the calls permitted to its functions. -/
structure FileFindings where
  file : String
  language : String
  entries : List ViolationRecord
  callGraph : Keyed (List String)

namespace FileFindings

def report (findings : FileFindings) : FileReport :=
  ⟨findings.file, findings.language,
    { ViolationReport.empty.recordAll findings.entries with callGraph := findings.callGraph }⟩

theorem lists_report (findings : FileFindings) : findings.report.report.Lists findings.entries :=
  (ViolationReport.lists_empty.recordAll findings.entries).callGraph findings.callGraph

end FileFindings

namespace CheckResult

def addFiles (result : CheckResult) (files : List FileReport) : CheckResult :=
  files.foldl addFile result

theorem addFiles_files (result : CheckResult) (files : List FileReport) :
    (result.addFiles files).files = result.files ++ files := by
  induction files generalizing result with
  | nil => exact (List.append_nil _).symm
  | cons file rest ih =>
    rw [List.append_cons]
    exact ih (result.addFile file)

theorem addFiles_totalCount (result : CheckResult) (files : List FileReport) :
    (result.addFiles files).totalCount = result.totalCount + (files.map (·.report.totalCount)).sum := by
  induction files generalizing result with
  | nil => rfl
  | cons file rest ih =>
    rw [List.map_cons, List.sum_cons, ← Nat.add_assoc]
    exact ih (result.addFile file)

end CheckResult

/-- A report lists what has been filed, and the total of a result is the number of the records of its
files, each finding in each file being one of them. -/
theorem filing_keeps_findings :
    (∀ entries, (ViolationReport.empty.recordAll entries).Lists entries) ∧
    ∀ (contract : String) (checked : List FileFindings),
      let result := (CheckResult.empty contract).addFiles (checked.map FileFindings.report)
      result.files = checked.map FileFindings.report ∧
      result.totalCount = (result.files.flatMap (·.report.records)).length ∧
      (result.files.flatMap (·.report.records)).Perm (checked.flatMap (·.entries)) := by
  refine ⟨fun entries => ViolationReport.lists_empty.recordAll entries, ?_⟩
  intro contract checked result
  have files : result.files = checked.map FileFindings.report := CheckResult.addFiles_files _ _
  refine ⟨files, ?_, ?_⟩
  · have total : result.totalCount = ((checked.map FileFindings.report).map (·.report.totalCount)).sum :=
      (CheckResult.addFiles_totalCount _ _).trans (Nat.zero_add _)
    rw [total, files, List.length_flatMap, List.map_map, List.map_map]
    exact congrArg List.sum (List.map_congr_left fun findings _ => findings.lists_report.records_length.symm)
  · rw [files, List.flatMap_map]
    exact List.Perm.flatMap_left checked fun findings _ => findings.lists_report.permuted

end CallPolicy
