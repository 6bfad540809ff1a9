import CallPolicy.Proofs.Policy.Freezing
import CallPolicy.Proofs.Report.Imports

/-! What the analysis finds of the calls of a unit.

Every call in a function of the outline has one of three fates: it is a finding, or it is listed for the
function, or the function is not declared and is a finding itself.
-/

set_option autoImplicit false

namespace CallPolicy

open Syntax

/-! ### Calls in their functions -/

/-- A call that the contract allows to all functions, or to this one. -/
def Contract.PermitsCall (contract : Contract) (function call : String) : Prop :=
  call ∈ contract.globalAllowedCalls.keys ∨
    ∃ spec, contract.specs.get? function = some spec ∧ call ∈ spec.allowedCalls.keys

theorem Contract.isCallAllowed_iff_permitsCall (contract : Contract) (function call : String) :
    contract.isCallAllowed function call = true ↔ contract.PermitsCall function call := by
  simp only [isCallAllowed, PermitsCall, spec?, Bool.or_eq_true, Option.any_eq_true, Keyed.contains_iff,
    Keyed.mem_keys_iff]

instance (contract : Contract) (function call : String) : Decidable (contract.PermitsCall function call) :=
  decidable_of_iff _ (contract.isCallAllowed_iff_permitsCall function call)

/-- The calls in the functions of a module, in their order, each with the name of the function. -/
def ModuleOutline.callSites (outline : ModuleOutline) : List (String × CallSite) :=
  outline.functions.flatMap fun function => function.graph.calls.map fun call => (function.name, call)

namespace Analysis

/-- What a report says of the functions of a module and of the calls in them. -/
structure CallsFound (contract : Contract) (outline : ModuleOutline) (report : ViolationReport) : Prop where
  refused : report.calls =
    (outline.callSites.filter fun site =>
      site.1 ∈ contract.declaredFunctions ∧ ¬ contract.PermitsCall site.1 site.2.name).map
      fun site => ⟨.call, some site.2.line, site.2.name, some site.1⟩
  listed : ∀ name, name ∈ report.callGraph.keys ↔
    name ∈ contract.declaredFunctions ∧ ∃ function ∈ outline.functions, function.name = name
  permitted : ∀ name names, report.callGraph.get? name = some names → FirstOccurrences
    ((outline.callSites.filter fun site => site.1 = name ∧ contract.PermitsCall site.1 site.2.name).map (·.2.name)) names
  undeclared : report.undeclaredFunctions =
    (outline.functions.filter (·.name ∉ contract.declaredFunctions)).map
      fun function => ⟨.undeclaredFunction, some function.line, function.name, none⟩
  parted : ∀ site ∈ outline.callSites, site.1 ∈ contract.declaredFunctions →
    (⟨.call, some site.2.line, site.2.name, some site.1⟩ ∈ report.calls ↔
      ¬ ∃ names, report.callGraph.get? site.1 = some names ∧ site.2.name ∈ names)
  unchecked : ∀ function ∈ outline.functions, function.name ∉ contract.declaredFunctions →
    ∀ record ∈ report.calls, record.context ≠ some function.name

variable {contract : Contract} {marker : String} {outline : ModuleOutline}

theorem isDeclared_eq (name : String) : contract.isDeclared name = decide (name ∈ contract.declaredFunctions) := by
  rw [Bool.eq_iff_iff, contract.mem_declared_iff, decide_eq_true_iff]

theorem isCallAllowed_eq (function call : String) :
    contract.isCallAllowed function call = decide (contract.PermitsCall function call) := by
  rw [Bool.eq_iff_iff, contract.isCallAllowed_iff_permitsCall, decide_eq_true_iff]

theorem refusedCalls_eq (contract : Contract) (outline : ModuleOutline) :
    (governed contract outline).flatMap (refusedCalls contract) =
      (outline.callSites.filter fun site =>
        site.1 ∈ contract.declaredFunctions ∧ ¬ contract.PermitsCall site.1 site.2.name).map
        fun site => ⟨.call, some site.2.line, site.2.name, some site.1⟩ := by
  rw [governed, ModuleOutline.callSites]
  induction outline.functions with
  | nil => rfl
  | cons function rest ih =>
    rw [List.flatMap_cons, List.filter_append, List.map_append, ← ih, List.filter_cons, isDeclared_eq]
    by_cases declared : function.name ∈ contract.declaredFunctions
    · simp [declared, refusedCalls, List.filter_map, Function.comp_def, isCallAllowed_eq]
    · simp [declared, List.filter_map, Function.comp_def]

/-- The functions of one name add up what is permitted to them. -/
theorem merge_permitted (functions : List FunctionOutline) (before : List String) :
    functions.foldl (fun names function => some (distinct (names.getD [] ++ permittedCalls contract function)))
        (some (distinct before)) =
      some (distinct (before ++ functions.flatMap (permittedCalls contract))) := by
  induction functions generalizing before with
  | nil => simp
  | cons function rest ih =>
    rw [List.foldl_cons, Option.getD_some, distinct_distinct_append, ih, List.append_assoc, List.flatMap_cons]

theorem callGraph_get?_eq (contract : Contract) (outline : ModuleOutline) (name : String) :
    (callGraph contract outline).get? name =
      if ∃ function ∈ governed contract outline, function.name = name then
        some (distinct (((governed contract outline).filter (·.name == name)).flatMap (permittedCalls contract)))
      else none := by
  rw [callGraph_get?]
  cases named : (governed contract outline).filter (·.name == name) with
  | nil =>
    rw [if_neg, List.foldl_nil]
    simpa using named
  | cons function rest =>
    have member : function ∈ (governed contract outline).filter (·.name == name) := by
      rw [named]
      exact List.mem_cons_self
    obtain ⟨isGoverned, sameName⟩ := List.mem_filter.1 member
    rw [if_pos ⟨function, isGoverned, eq_of_beq sameName⟩, List.foldl_cons, Option.getD_none, List.nil_append,
      merge_permitted, List.flatMap_cons]

theorem mem_governed_iff (function : FunctionOutline) : function ∈ governed contract outline ↔
    function ∈ outline.functions ∧ function.name ∈ contract.declaredFunctions := by
  rw [governed, List.mem_filter, contract.mem_declared_iff]

theorem permittedCalls_named {name : String} (declared : name ∈ contract.declaredFunctions) :
    ((governed contract outline).filter (·.name == name)).flatMap (permittedCalls contract) =
      (outline.callSites.filter fun site => site.1 = name ∧ contract.PermitsCall site.1 site.2.name).map (·.2.name) := by
  rw [governed, ModuleOutline.callSites]
  induction outline.functions with
  | nil => rfl
  | cons function rest ih =>
    rw [List.flatMap_cons, List.filter_append, List.map_append, ← ih, List.filter_cons, isDeclared_eq]
    by_cases same : function.name = name
    · subst same
      simp [declared, permittedCalls, CallGraph.callNames, List.filter_map, Function.comp_def, isCallAllowed_eq]
    · by_cases declaredToo : function.name ∈ contract.declaredFunctions <;>
        simp [same, declaredToo, List.filter_map, Function.comp_def]

theorem callGraph_get?_eq_some_iff {name : String} {names : List String} :
    (callGraph contract outline).get? name = some names ↔
      name ∈ contract.declaredFunctions ∧ (∃ function ∈ outline.functions, function.name = name) ∧
      names = distinct ((outline.callSites.filter fun site =>
        site.1 = name ∧ contract.PermitsCall site.1 site.2.name).map (·.2.name)) := by
  rw [callGraph_get?_eq]
  constructor
  · intro entered
    split at entered
    · next defined =>
      obtain ⟨function, isGoverned, rfl⟩ := defined
      obtain ⟨member, declared⟩ := (mem_governed_iff function).1 isGoverned
      rw [permittedCalls_named declared] at entered
      exact ⟨declared, ⟨function, member, rfl⟩, (Option.some.inj entered).symm⟩
    · cases entered
  · rintro ⟨declared, ⟨function, member, rfl⟩, rfl⟩
    rw [if_pos ⟨function, (mem_governed_iff function).2 ⟨member, declared⟩, rfl⟩, permittedCalls_named declared]

theorem mem_refused_iff (site : String × CallSite) :
    (⟨.call, some site.2.line, site.2.name, some site.1⟩ : ViolationRecord) ∈
        (governed contract outline).flatMap (refusedCalls contract) ↔
      site ∈ outline.callSites ∧ site.1 ∈ contract.declaredFunctions ∧ ¬ contract.PermitsCall site.1 site.2.name := by
  rw [refusedCalls_eq, List.mem_map]
  constructor
  · rintro ⟨⟨function, name, line⟩, member, same⟩
    obtain ⟨⟩ := same
    simpa using List.mem_filter.1 member
  · rintro ⟨member, declared, refused⟩
    exact ⟨site, List.mem_filter.2 ⟨member, by simp [declared, refused]⟩, rfl⟩

theorem named_of_mem_callSites {site : String × CallSite} (member : site ∈ outline.callSites) :
    ∃ function ∈ outline.functions, function.name = site.1 := by
  obtain ⟨function, isFunction, called⟩ := List.mem_flatMap.1 member
  obtain ⟨call, _, rfl⟩ := List.mem_map.1 called
  exact ⟨function, isFunction, rfl⟩

theorem calls_eq (contract : Contract) (marker : String) (outline : ModuleOutline) :
    (report contract marker outline).calls = (governed contract outline).flatMap (refusedCalls contract) :=
  report_files contract marker outline .call

theorem callsFound_report (contract : Contract) (marker : String) (outline : ModuleOutline) :
    CallsFound contract outline (report contract marker outline) where
  refused := (calls_eq contract marker outline).trans (refusedCalls_eq contract outline)
  listed name := by
    rw [Keyed.mem_keys_iff]
    constructor
    · rintro ⟨names, entered⟩
      obtain ⟨declared, defined, _⟩ := callGraph_get?_eq_some_iff.1 entered
      exact ⟨declared, defined⟩
    · rintro ⟨declared, defined⟩
      exact ⟨_, callGraph_get?_eq_some_iff.2 ⟨declared, defined, rfl⟩⟩
  permitted name names entered := by
    obtain ⟨_, _, rfl⟩ := callGraph_get?_eq_some_iff.1 entered
    exact firstOccurrences_distinct _
  undeclared := by
    refine (report_files contract marker outline .undeclaredFunction).trans ?_
    simp only [findingsOf, undeclared, isDeclared_eq, decide_not]
  parted := by
    intro site member declared
    have defined : ∃ function ∈ outline.functions, function.name = site.1 := named_of_mem_callSites member
    have fate : (⟨.call, some site.2.line, site.2.name, some site.1⟩ : ViolationRecord) ∈
        (report contract marker outline).calls ↔ ¬ contract.PermitsCall site.1 site.2.name := by
      rw [calls_eq, mem_refused_iff]
      exact ⟨fun found => found.2.2, fun refused => ⟨member, declared, refused⟩⟩
    rw [fate, not_iff_not]
    constructor
    · intro permitted
      refine ⟨_, callGraph_get?_eq_some_iff.2 ⟨declared, defined, rfl⟩,
        mem_distinct.2 (List.mem_map.2 ⟨site, ?_, rfl⟩)⟩
      exact List.mem_filter.2 ⟨member, decide_eq_true ⟨rfl, permitted⟩⟩
    · rintro ⟨names, entered, named⟩
      obtain ⟨_, _, rfl⟩ := callGraph_get?_eq_some_iff.1 entered
      obtain ⟨other, kept, sameName⟩ := List.mem_map.1 (mem_distinct.1 named)
      obtain ⟨sameFunction, permitted⟩ := of_decide_eq_true (List.mem_filter.1 kept).2
      rwa [sameFunction, sameName] at permitted
  unchecked := by
    intro function _ undeclared entry filed inContext
    rw [calls_eq, refusedCalls_eq] at filed
    obtain ⟨site, kept, rfl⟩ := List.mem_map.1 filed
    have declared := (of_decide_eq_true (List.mem_filter.1 kept).2).1
    exact undeclared (Option.some.inj inContext ▸ declared)

end Analysis

/-- The findings of calls are the calls of declared functions that the contract does not permit, all of
them, in order. The graph names the declared functions that are defined, each with what is permitted of
its calls, first uses only. The other functions are findings, and nothing in them is. -/
theorem call_findings_exact (contract : Contract) (marker : String) (unit : SourceUnit) (tree : Node)
    (parsed : checkedTree unit = .ok tree) :
    ∃ (outlined : ModuleOutline) (report : ViolationReport), outline unit = .ok outlined ∧
      analyze contract marker unit = .ok report ∧ Analysis.CallsFound contract outlined report :=
  ⟨_, _, outline_of_checkedTree parsed, analyze_of_checkedTree parsed _ _,
    Analysis.callsFound_report contract marker _⟩

section

/-- All may call `log`; `save` may also call `open`. -/
def callContract : Contract where
  raiseOnViolation := false
  declaredFunctions := ["save"]
  allowedImports := .empty
  globalAllowedCalls := .ofList ["log"]
  specs := Keyed.empty.insert "save" { FunctionSpec.empty with allowedCalls := .ofList ["open"] }
  declared_nodup := by decide
  declared_specified := by decide

/-- Two definitions of one name, and one that is not declared. -/
def callingUnit : SourceUnit :=
  ⟨.python,
    "class A:\n def save():\n  log(open())\n  eval()\nclass B:\n def save():\n  eval(open())\ndef load():\n exec()\n"⟩

theorem call_findings_of_calling :
    ∃ tree, checkedTree callingUnit = .ok tree ∧ ∃ report : ViolationReport,
      analyze callContract Analysis.standardMarker callingUnit = .ok report ∧
      report.calls = [⟨.call, some 4, "eval", some "save"⟩, ⟨.call, some 7, "eval", some "save"⟩] ∧
      report.undeclaredFunctions = [⟨.undeclaredFunction, some 8, "load", none⟩] ∧
      report.callGraph.get? "save" = some ["log", "open"] ∧ "load" ∉ report.callGraph.keys := by
  obtain ⟨readable, functions⟩ : (parse callingUnit).firstErrorLine = none ∧
      (outlineTree callingUnit.language.constructs (parse callingUnit)).functions =
        [⟨"save", 2, ⟨[⟨"log", 3⟩, ⟨"open", 3⟩, ⟨"eval", 4⟩], []⟩⟩, ⟨"save", 6, ⟨[⟨"eval", 7⟩, ⟨"open", 7⟩], []⟩⟩,
          ⟨"load", 8, ⟨[⟨"exec", 9⟩], []⟩⟩] := by decide +kernel
  have parsed : checkedTree callingUnit = .ok (parse callingUnit) := by rw [checkedTree, readable]
  obtain ⟨outlined, report, outlines, analysed, found⟩ :=
    call_findings_exact callContract Analysis.standardMarker callingUnit _ parsed
  have same : outlined = outlineTree callingUnit.language.constructs (parse callingUnit) :=
    Except.ok.inj (outlines.symm.trans (outline_of_checkedTree parsed))
  rw [← same] at functions
  refine ⟨_, parsed, report, analysed, ?_, ?_, ?_, ?_⟩
  · rw [found.refused, ModuleOutline.callSites, functions]
    decide +kernel
  · rw [found.undeclared, functions]
    decide +kernel
  · have listed : "save" ∈ report.callGraph.keys := by
      rw [found.listed, functions]
      decide +kernel
    obtain ⟨names, entered⟩ := (Keyed.mem_keys_iff _ _).1 listed
    have first := found.permitted "save" names entered
    rw [ModuleOutline.callSites, functions] at first
    rw [entered, first.unique (firstOccurrences_distinct _)]
    decide +kernel
  · rw [found.listed, functions]
    decide +kernel

end

end CallPolicy
