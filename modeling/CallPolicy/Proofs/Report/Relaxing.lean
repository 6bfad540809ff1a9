import CallPolicy.Proofs.Report.CallFindings

/-! What the analysis finds under a contract that allows more.

The findings of calls and imports that are allowed now go away, and the calls go over to the lists of
permitted ones. Everything else stays, and stays in its place.
-/

set_option autoImplicit false

namespace CallPolicy

open Syntax

/-! ### Contracts that allow more -/

/-- The second contract declares the same functions. It allows at least the imports and the calls that
the first one allows. -/
structure Contract.RelaxedTo (contract relaxed : Contract) : Prop where
  declaredFunctions : relaxed.declaredFunctions = contract.declaredFunctions
  allowedImports : contract.allowedImports.keys ⊆ relaxed.allowedImports.keys
  globalAllowedCalls : contract.globalAllowedCalls.keys ⊆ relaxed.globalAllowedCalls.keys
  allowedCalls : ∀ function ∈ contract.declaredFunctions, ∀ spec larger,
    contract.specs.get? function = some spec → relaxed.specs.get? function = some larger →
    spec.allowedCalls.keys ⊆ larger.allowedCalls.keys

/-- What a contract that allows more makes of a report: the findings that it still has, and longer lists
of permitted calls. -/
structure ViolationReport.Relaxed (relaxed : Contract) (report later : ViolationReport) : Prop where
  undeclared : later.undeclaredFunctions = report.undeclaredFunctions
  undefined : later.undefinedFunctions = report.undefinedFunctions
  undecorated : later.undecoratedClasses = report.undecoratedClasses
  calls : later.calls.Sublist report.calls
  calls_left : later.calls =
    report.calls.filter fun record => ∀ function ∈ record.context, ¬ relaxed.PermitsCall function record.subject
  imports : later.imports.Sublist report.imports
  imports_left : later.imports = report.imports.filter (·.subject ∉ relaxed.allowedImports.keys)
  counted : later.totalCount ≤ report.totalCount
  listed : ∀ function, function ∈ later.callGraph.keys ↔ function ∈ report.callGraph.keys
  permitted : ∀ function names, report.callGraph.get? function = some names →
    ∃ more, later.callGraph.get? function = some more ∧ names.Sublist more

namespace Contract.RelaxedTo

variable {contract relaxed : Contract} {function call : String}

/-- The specification of a declared function has one with at least its calls opposite to it. -/
theorem permitsCall (relaxes : contract.RelaxedTo relaxed) (declared : function ∈ contract.declaredFunctions)
    (permitted : contract.PermitsCall function call) : relaxed.PermitsCall function call := by
  cases permitted with
  | inl everywhere => exact .inl (relaxes.globalAllowedCalls everywhere)
  | inr own =>
    obtain ⟨spec, specified, listed⟩ := own
    have declaredToo : function ∈ relaxed.declaredFunctions := by rwa [relaxes.declaredFunctions]
    obtain ⟨larger, specifiedToo⟩ := Contract.specified_of_declared declaredToo
    exact .inr ⟨larger, specifiedToo, relaxes.allowedCalls function declared spec larger specified specifiedToo listed⟩

end Contract.RelaxedTo

namespace Analysis

variable {contract relaxed : Contract} {outline : ModuleOutline}

/-! ### Findings that stay and findings that go -/

theorem undeclared_relaxed (relaxes : contract.RelaxedTo relaxed) (outline : ModuleOutline) :
    undeclared relaxed outline = undeclared contract outline := by
  simp only [undeclared, isDeclared_eq, relaxes.declaredFunctions]

theorem undefined_relaxed (relaxes : contract.RelaxedTo relaxed) (outline : ModuleOutline) :
    undefined relaxed outline = undefined contract outline := by
  rw [undefined, undefined, relaxes.declaredFunctions]

theorem refusedCalls_relaxed (relaxes : contract.RelaxedTo relaxed) (outline : ModuleOutline) :
    (governed relaxed outline).flatMap (refusedCalls relaxed) =
      ((governed contract outline).flatMap (refusedCalls contract)).filter
        fun record => ∀ function ∈ record.context, ¬ relaxed.PermitsCall function record.subject := by
  rw [refusedCalls_eq, refusedCalls_eq, List.filter_map, List.filter_filter, relaxes.declaredFunctions]
  congr 1
  apply List.filter_congr
  intro site _
  rw [Bool.eq_iff_iff]
  simp only [Function.comp_apply, Option.mem_some_iff, forall_eq', Bool.and_eq_true, decide_eq_true_iff]
  constructor
  · intro ⟨declared, refused⟩
    -- What is refused now was refused before: nothing has been taken away.
    exact ⟨refused, declared, fun permitted => refused (relaxes.permitsCall declared permitted)⟩
  · intro ⟨refused, declared, _⟩
    exact ⟨declared, refused⟩

theorem isImportAllowed_eq (contract : Contract) (moduleName : String) :
    contract.isImportAllowed moduleName = decide (moduleName ∈ contract.allowedImports.keys) := by
  rw [Bool.eq_iff_iff, Contract.isImportAllowed, decide_eq_true_iff, Keyed.contains_iff, Keyed.mem_keys_iff]

theorem refusedImports_relaxed (relaxes : contract.RelaxedTo relaxed) (outline : ModuleOutline) :
    refusedImports relaxed outline =
      (refusedImports contract outline).filter (·.subject ∉ relaxed.allowedImports.keys) := by
  rw [refusedImports, refusedImports, List.filter_map, List.filter_filter]
  congr 1
  apply List.filter_congr
  intro site _
  simp only [Function.comp_apply, isImportAllowed_eq]
  by_cases allowed : site.moduleName ∈ contract.allowedImports.keys
  · simp [allowed, relaxes.allowedImports allowed]
  · simp [allowed]

/-- Only the findings of calls and imports can become fewer. -/
theorem totalCount_relaxed (relaxes : contract.RelaxedTo relaxed) (marker : String) (outline : ModuleOutline) :
    (report relaxed marker outline).totalCount ≤ (report contract marker outline).totalCount := by
  have calls := List.length_filter_le
    (fun record => ∀ function ∈ record.context, ¬ relaxed.PermitsCall function record.subject)
    ((governed contract outline).flatMap (refusedCalls contract))
  have imports := List.length_filter_le (·.subject ∉ relaxed.allowedImports.keys) (refusedImports contract outline)
  rw [← refusedCalls_relaxed relaxes] at calls
  rw [← refusedImports_relaxed relaxes] at imports
  rw [report_totalCount, report_totalCount]
  simp only [findings, List.length_append, undeclared_relaxed relaxes, undefined_relaxed relaxes]
  omega

/-! ### Lists of permitted calls -/

/-- The calls of the functions of a name. -/
def callsNamed (outline : ModuleOutline) (name : String) : List String :=
  (outline.callSites.filter (·.1 = name)).map (·.2.name)

/-- Permission depends on the names alone, so it does not matter whether repetitions are left out
before or after. -/
theorem callGraph_eq_filter {name : String} {names : List String}
    (entered : (callGraph contract outline).get? name = some names) :
    names = (distinct (callsNamed outline name)).filter (contract.PermitsCall name ·) := by
  obtain ⟨_, _, same⟩ := callGraph_get?_eq_some_iff.1 entered
  rw [same, ← distinct_filter, callsNamed, List.filter_map, List.filter_filter]
  congr 2
  apply List.filter_congr
  intro site _
  by_cases named : site.1 = name
  · simp [named]
  · simp [named]

theorem callGraph_relaxed (relaxes : contract.RelaxedTo relaxed) {name : String} {names : List String}
    (entered : (callGraph contract outline).get? name = some names) :
    ∃ more, (callGraph relaxed outline).get? name = some more ∧ names.Sublist more := by
  obtain ⟨declared, defined, _⟩ := callGraph_get?_eq_some_iff.1 entered
  have declaredToo : name ∈ relaxed.declaredFunctions := by rwa [relaxes.declaredFunctions]
  refine ⟨_, callGraph_get?_eq_some_iff.2 ⟨declaredToo, defined, rfl⟩, ?_⟩
  rw [callGraph_eq_filter entered, callGraph_eq_filter (callGraph_get?_eq_some_iff.2 ⟨declaredToo, defined, rfl⟩)]
  apply List.monotone_filter_right
  intro call permitted
  rw [decide_eq_true_iff] at permitted ⊢
  exact relaxes.permitsCall declared permitted

theorem bucket_eq_of_findingsOf {marker : String} (kind : RecordKind)
    (same : findingsOf relaxed marker outline kind = findingsOf contract marker outline kind) :
    (report relaxed marker outline).bucket kind = (report contract marker outline).bucket kind := by
  rw [report_files, report_files, same]

theorem relaxed_report (relaxes : contract.RelaxedTo relaxed) (marker : String) (outline : ModuleOutline) :
    ViolationReport.Relaxed relaxed (report contract marker outline) (report relaxed marker outline) := by
  have calls : (report relaxed marker outline).calls = (report contract marker outline).calls.filter
      fun record => ∀ function ∈ record.context, ¬ relaxed.PermitsCall function record.subject := by
    rw [calls_eq, calls_eq, refusedCalls_relaxed relaxes]
  have imports : (report relaxed marker outline).imports =
      (report contract marker outline).imports.filter (·.subject ∉ relaxed.allowedImports.keys) := by
    have before := report_imports contract marker outline
    have after := report_imports relaxed marker outline
    rw [refusedImports_relaxed relaxes, ← before] at after
    exact after
  exact {
    undeclared := bucket_eq_of_findingsOf .undeclaredFunction (undeclared_relaxed relaxes outline)
    undefined := bucket_eq_of_findingsOf .undefinedFunction (undefined_relaxed relaxes outline)
    undecorated := bucket_eq_of_findingsOf .undecoratedClass rfl
    calls := calls ▸ List.filter_sublist
    calls_left := calls
    imports := imports ▸ List.filter_sublist
    imports_left := imports
    counted := totalCount_relaxed relaxes marker outline
    listed := by
      intro function
      rw [(callsFound_report relaxed marker outline).listed, (callsFound_report contract marker outline).listed,
        relaxes.declaredFunctions]
    permitted := fun _ _ entered => callGraph_relaxed relaxes entered }

end Analysis

/-- Of a unit that can be read, a contract that allows more has the findings of the stricter one, but
those of calls and imports that it allows. It lists, for each function, at least the same permitted calls in
the same order. -/
theorem relaxing_clears_findings (contract relaxed : Contract) (marker : String) (unit : SourceUnit) (tree : Node)
    (parsed : checkedTree unit = .ok tree) (relaxes : contract.RelaxedTo relaxed) :
    ∃ report later, analyze contract marker unit = .ok report ∧ analyze relaxed marker unit = .ok later ∧
      ViolationReport.Relaxed relaxed report later :=
  ⟨_, _, analyze_of_checkedTree parsed _ _, analyze_of_checkedTree parsed _ _,
    Analysis.relaxed_report relaxes marker _⟩

section

/-- One import, and two definitions of one name. -/
def sharingUnit : SourceUnit :=
  ⟨.python, "import os\nclass A:\n def save():\n  log(open())\n  eval()\nclass B:\n def save():\n  drop(eval())\n"⟩

/-- What `callContract` allows, the import, and one more call. -/
def sharingContract : Contract :=
  { callContract with
    allowedImports := .ofList ["os"]
    specs := Keyed.empty.insert "save" { FunctionSpec.empty with allowedCalls := .ofList ["open", "eval"] }
    declared_specified := by decide }

theorem callContract_relaxedTo : callContract.RelaxedTo sharingContract where
  declaredFunctions := rfl
  allowedImports := by decide
  globalAllowedCalls := by decide
  allowedCalls := by
    intro function declared spec larger specified specifiedToo
    cases List.mem_singleton.1 declared
    cases specified
    cases specifiedToo
    decide

/-- Two of three findings go, and the call that they name is listed at last. -/
theorem relaxing_of_sharing :
    callContract.RelaxedTo sharingContract ∧ ∃ tree, checkedTree sharingUnit = .ok tree ∧
    ∃ report later, analyze callContract Analysis.standardMarker sharingUnit = .ok report ∧
      analyze sharingContract Analysis.standardMarker sharingUnit = .ok later ∧
      report.calls = [⟨.call, some 5, "eval", some "save"⟩, ⟨.call, some 8, "drop", some "save"⟩,
        ⟨.call, some 8, "eval", some "save"⟩] ∧
      later.calls = [⟨.call, some 8, "drop", some "save"⟩] ∧ later.imports = [] ∧
      ∃ names, later.callGraph.get? "save" = some names ∧ ["log", "open"].Sublist names := by
  obtain ⟨readable, functions, imports⟩ : (parse sharingUnit).firstErrorLine = none ∧
      (outlineTree sharingUnit.language.constructs (parse sharingUnit)).functions =
        [⟨"save", 3, ⟨[⟨"log", 4⟩, ⟨"open", 4⟩, ⟨"eval", 5⟩], []⟩⟩, ⟨"save", 7, ⟨[⟨"drop", 8⟩, ⟨"eval", 8⟩], []⟩⟩] ∧
      (outlineTree sharingUnit.language.constructs (parse sharingUnit)).imports = [⟨"os", 1⟩] := by decide +kernel
  have parsed : checkedTree sharingUnit = .ok (parse sharingUnit) := by rw [checkedTree, readable]
  obtain ⟨report, later, analysed, analysedToo, relaxed⟩ := relaxing_clears_findings callContract sharingContract
    Analysis.standardMarker sharingUnit _ parsed callContract_relaxedTo
  have found := Analysis.callsFound_report callContract Analysis.standardMarker
    (outlineTree sharingUnit.language.constructs (parse sharingUnit))
  have same := Except.ok.inj ((analyze_of_checkedTree parsed _ _).symm.trans analysed)
  have importing := Analysis.report_imports callContract Analysis.standardMarker
    (outlineTree sharingUnit.language.constructs (parse sharingUnit))
  rw [same] at found importing
  have calls : report.calls = [⟨.call, some 5, "eval", some "save"⟩, ⟨.call, some 8, "drop", some "save"⟩,
      ⟨.call, some 8, "eval", some "save"⟩] := by
    rw [found.refused, ModuleOutline.callSites, functions]
    decide +kernel
  refine ⟨callContract_relaxedTo, _, parsed, report, later, analysed, analysedToo, calls, ?_, ?_, ?_⟩
  · rw [relaxed.calls_left, calls]
    decide +kernel
  · have sites : Analysis.importSites (outlineTree sharingUnit.language.constructs (parse sharingUnit)) = [⟨"os", 1⟩] := by
      rw [Analysis.importSites, functions, imports]
      exact List.mergeSort_singleton _
    have imported : report.imports = [⟨.importing, some 1, "os", none⟩] := by
      rw [Analysis.refusedImports, sites] at importing
      exact importing
    rw [relaxed.imports_left, imported]
    decide +kernel
  · obtain ⟨names, entered⟩ := (Keyed.mem_keys_iff _ _).1 ((found.listed "save").2
      ⟨List.mem_singleton.2 rfl, ⟨"save", 3, _⟩, by rw [functions]; exact List.mem_cons_self, rfl⟩)
    have first := found.permitted "save" names entered
    rw [ModuleOutline.callSites, functions] at first
    have listed : names = ["log", "open"] := first.unique (firstOccurrences_distinct _)
    obtain ⟨more, enteredToo, longer⟩ := relaxed.permitted "save" names entered
    exact ⟨more, enteredToo, listed ▸ longer⟩

end

end CallPolicy
