import CallPolicy.CommandLine.Run
import CallPolicy.Proofs.Report.CallChecks
import CallPolicy.Proofs.Report.Imports

/-! What the verdict of a check says of the files that were found.

A file that cannot be read, or does not parse, makes a failure and never counts as clean. The walk is
kept apart from the verdict: the latter is exact for any list of files.
-/

set_option autoImplicit false

namespace CallPolicy

namespace CommandLine

variable {contract : Contract} {marker : String}

/-! ### The entries of a result -/

/-- A file that was found, and what reading it gave. -/
abbrev Listing := SourceFile × Except ReadError String

/-- The file is read and parses. -/
def Listing.Legible (listing : Listing) : Prop :=
  ∃ text tree, listing.2 = .ok text ∧ checkedTree ⟨listing.1.language, text⟩ = .ok tree

/-- The file is read, and the report is what the analysis finds in it. -/
def Listing.Analysed (contract : Contract) (marker : String) (listing : Listing) (report : ViolationReport) : Prop :=
  ∃ text, listing.2 = .ok text ∧ analyze contract marker ⟨listing.1.language, text⟩ = .ok report

/-- The entry for a file that was found, a failure or a report. -/
inductive Listing.Entry (contract : Contract) (marker : String) : Listing → Except FileFailure FileReport → Prop where
  | unreadable (source : SourceFile) (cause : ReadError) :
    Entry contract marker (source, .error cause) (.error ⟨source.path, cause.message⟩)
  | unparsable {source : SourceFile} {text : String} {error : ExtractionError} :
    checkedTree ⟨source.language, text⟩ = .error error →
      Entry contract marker (source, .ok text) (.error ⟨source.path, error.message⟩)
  | reported {source : SourceFile} {text : String} {report : ViolationReport} :
    analyze contract marker ⟨source.language, text⟩ = .ok report →
      Entry contract marker (source, .ok text) (.ok ⟨source.path, source.language.name, report⟩)

theorem analyze_eq_error {unit : SourceUnit} {error : ExtractionError}
    (failed : analyze contract marker unit = .error error) : checkedTree unit = .error error := by
  unfold analyze outline at failed
  cases parsed : checkedTree unit with
  | error other =>
    rw [parsed] at failed
    exact congrArg Except.error (Except.error.inj failed)
  | ok tree =>
    rw [parsed] at failed
    cases failed

theorem Listing.entry_checkText (contract : Contract) (marker : String) (listing : Listing) :
    listing.Entry contract marker (checkText contract marker listing.1 listing.2) := by
  obtain ⟨source, read⟩ := listing
  cases read with
  | error cause => exact .unreadable source cause
  | ok text =>
    cases analysed : analyze contract marker ⟨source.language, text⟩ with
    | error error =>
      rw [checkText]
      simp only [analysed]
      exact .unparsable (analyze_eq_error analysed)
    | ok report =>
      rw [checkText]
      simp only [analysed]
      exact .reported analysed

theorem Listing.Analysed.legible {listing : Listing} {report : ViolationReport}
    (analysed : listing.Analysed contract marker report) : listing.Legible := by
  obtain ⟨text, read, analysed⟩ := analysed
  exact ⟨text, _, read, (analyze_eq_ok analysed).1⟩

theorem Listing.Legible.analysed {listing : Listing} (legible : listing.Legible) (contract : Contract)
    (marker : String) : ∃ report, listing.Analysed contract marker report := by
  obtain ⟨text, tree, read, parsed⟩ := legible
  exact ⟨_, text, read, analyze_of_checkedTree parsed contract marker⟩

theorem Listing.Analysed.unique {listing : Listing} {report other : ViolationReport}
    (analysed : listing.Analysed contract marker report) (again : listing.Analysed contract marker other) :
    report = other := by
  obtain ⟨text, read, analysed⟩ := analysed
  obtain ⟨same, readAgain, again⟩ := again
  cases Except.ok.inj (read.symm.trans readAgain)
  exact Except.ok.inj (analysed.symm.trans again)

/-- The count of a report is the number of its records. -/
theorem Listing.Analysed.counted {listing : Listing} {report : ViolationReport}
    (analysed : listing.Analysed contract marker report) : report.records.length = report.totalCount := by
  obtain ⟨text, _, analysed⟩ := analysed
  rw [(analyze_eq_ok analysed).2]
  exact Analysis.records_length _ _ _

/-! ### Results -/

/-- The reports among entries. -/
def reports : List (Except FileFailure FileReport) → List FileReport
  | [] => []
  | .ok file :: rest => file :: reports rest
  | .error _ :: rest => reports rest

/-- The failures among entries. -/
def failures : List (Except FileFailure FileReport) → List FileFailure
  | [] => []
  | .ok _ :: rest => failures rest
  | .error failure :: rest => failure :: failures rest

section

variable {found : List Listing} {entries : List (Except FileFailure FileReport)}

end

namespace Tallied

variable {found : List Listing} {result : CheckResult}

end Tallied

/-! ### The verdict -/

section

end

end CommandLine

end CallPolicy
