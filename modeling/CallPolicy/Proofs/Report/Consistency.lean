import CallPolicy.Proofs.CallGraph.Definitions
import CallPolicy.Proofs.Enforcement.Calls
import CallPolicy.Proofs.Report.Filing

/-! What a clean report says of guarded calls.

The analysis looks at the definitions that lie in no function. A guard looks at the first
definition of a name, wherever it stands. Where this one lies in a function, the analysis has
checked its calls against the contract of the function around it.
-/

set_option autoImplicit false

namespace CallPolicy

namespace Analysis

/-- What the findings say of the functions of a module, where there are none. -/
structure Conforms (contract : Contract) (outline : ModuleOutline) : Prop where
  defined : ∀ name ∈ contract.declaredFunctions, ∃ function ∈ outline.functions, function.name = name
  declared : ∀ function ∈ outline.functions, function.name ∈ contract.declaredFunctions
  calls_allowed : ∀ function ∈ outline.functions, ∀ call ∈ function.graph.callNames,
    contract.isCallAllowed function.name call = true

theorem conforms_of_clean {contract : Contract} {marker : String} {outline : ModuleOutline}
    (clean : (report contract marker outline).totalCount = 0) : Conforms contract outline := by
  have counted := ViolationReport.recordAll_totalCount .empty
    (undeclared contract outline ++ (governed contract outline).flatMap (refusedCalls contract)
      ++ refusedImports contract outline ++ undefined contract outline ++ undecorated marker outline)
  -- Nothing was counted, so no list of findings has anything in it.
  have empty := List.eq_nil_of_length_eq_zero (Nat.eq_zero_of_add_eq_zero_left (counted.symm.trans clean))
  simp only [List.append_eq_nil_iff, List.flatMap_eq_nil_iff] at empty
  obtain ⟨⟨⟨⟨noUndeclared, noRefused⟩, _⟩, noUndefined⟩, _⟩ := empty
  have declared : ∀ function ∈ outline.functions, contract.isDeclared function.name = true := by
    simpa [undeclared] using noUndeclared
  refine ⟨?_, fun function member => (contract.mem_declared_iff _).1 (declared function member), ?_⟩
  · intro name member
    have listed : name ∈ outline.functions.map (·.name) := by
      have kept := List.filter_eq_nil_iff.1 (List.map_eq_nil_iff.1 noUndefined) name member
      simpa using kept
    exact List.mem_map.1 listed
  · intro function member call called
    have isGoverned : function ∈ governed contract outline := List.mem_filter.2 ⟨member, declared function member⟩
    obtain ⟨site, siteMember, rfl⟩ := List.mem_map.1 called
    have kept := List.filter_eq_nil_iff.1 (List.map_eq_nil_iff.1 (noRefused function isGoverned)) site siteMember
    simpa using kept

end Analysis

/-! ### The two walks -/

theorem analyze_eq_ok {contract : Contract} {marker : String} {unit : SourceUnit} {report : ViolationReport}
    (analysed : analyze contract marker unit = .ok report) :
    checkedTree unit = .ok (parse unit) ∧
      report = Analysis.report contract marker (outlineTree unit.language.constructs (parse unit)) := by
  unfold analyze outline at analysed
  cases checked : checkedTree unit with
  | error error =>
    rw [checked] at analysed
    cases analysed
  | ok tree =>
    rw [checked] at analysed
    rw [← checkedTree_eq_ok checked]
    exact ⟨rfl, (Except.ok.inj analysed).symm⟩

/-- A declared name of a clean unit has a definition, and the first one of them makes only calls
that are allowed to the name unless it lies in another function. -/
theorem firstDefinition?_of_clean {contract : Contract} {marker : String} {unit : SourceUnit} {report : ViolationReport}
    {name : String} (analysed : analyze contract marker unit = .ok report) (clean : report.totalCount = 0)
    (declared : name ∈ contract.declaredFunctions) :
    ∃ definition, unit.language.constructs.firstDefinition? (parse unit) name = some definition ∧
      extractFunction unit name = .ok (unit.language.constructs.graphOf definition) ∧
      (unit.language.constructs.isNested definition = false →
        ∀ call ∈ (unit.language.constructs.graphOf definition).callNames, contract.isCallAllowed name call = true) := by
  obtain ⟨checked, same⟩ := analyze_eq_ok analysed
  subst same
  have conforms := Analysis.conforms_of_clean clean
  -- The outline has some definition of the name, though not always the first one.
  obtain ⟨outlined, member, sameName⟩ := conforms.defined name declared
  obtain ⟨definition, found⟩ := Constructs.firstDefinition?_of_outlined _ member
  rw [sameName] at found
  refine ⟨definition, found, extractFunction_of_firstDefinition? checked found, ?_⟩
  intro outer
  exact conforms.calls_allowed _ (Constructs.outlined_of_firstDefinition? _ found outer)

/-! ### Guarded calls of a clean unit -/

namespace GovernedFunction

/-- In a unit without findings, a guarded call of a declared function is never stopped for its
source, and it is stopped for a call exactly when the first definition of its name lies in another
function and makes a call, the first of its kind, that is not allowed to the name. -/
theorem clean_report_consistent (contract : Contract) (marker : String) (report : ViolationReport)
    (function : GovernedFunction) (isolated : Bool)
    (call : Bool → Caller → String → Arguments → Memory → Option (Ran Reply)) (caller : Caller) (arguments : Arguments)
    (memory : Memory) (analysed : analyze contract marker function.source = .ok report) (clean : report.totalCount = 0)
    (declared : function.name ∈ contract.declaredFunctions)
    (faithful : memory.cache.Faithful function.source function.name) :
    (∀ error, ¬ EndsIn (function.callWith contract isolated call caller arguments memory) (.source error)) ∧
    ∀ name callee, EndsIn (function.callWith contract isolated call caller arguments memory)
        (.violation (.callNotAllowed name callee)) ↔
      name = function.name ∧ ∃ definition spec earlier later,
        function.source.language.constructs.firstDefinition? (parse function.source) name = some definition ∧
        function.source.language.constructs.isNested definition = true ∧
        contract.specs.get? name = some spec ∧
        (function.source.language.constructs.graphOf definition).callNames = earlier ++ callee :: later ∧
        (∀ other ∈ earlier, contract.Allows spec other) ∧ ¬ contract.Allows spec callee := by
  obtain ⟨definition, found, extracted, permitted⟩ := firstDefinition?_of_clean analysed clean declared
  obtain ⟨spec, specified⟩ := Contract.specified_of_declared declared
  constructor
  · intro error ended
    cases (endsIn_iff_refused faithful (by simp) (by simp) (by simp) (by simp)).1 ended with
    | unreadable _ failed =>
      rw [extracted] at failed
      cases failed
  · intro name callee
    rw [endsIn_iff_refused faithful (by simp) (by simp) (by simp) (by simp)]
    constructor
    · intro refused
      cases refused with
      | @call own graph earlier later _ passed extractedAgain position before forbidden =>
        have sameGraph := Except.ok.inj (extractedAgain.symm.trans extracted)
        subst sameGraph
        refine ⟨rfl, definition, own, earlier, later, found, ?_, passed.specified, position, before, forbidden⟩
        -- A definition outside all functions is one that the analysis has checked.
        rw [← Bool.not_eq_false]
        intro outer
        have made : callee ∈ (function.source.language.constructs.graphOf definition).callNames := by
          rw [position]
          exact List.mem_append_right _ List.mem_cons_self
        exact forbidden ((Contract.isCallAllowed_iff passed.specified callee).1 (permitted outer callee made))
    · rintro ⟨rfl, other, own, earlier, later, foundAgain, _, specifiedAgain, position, before, forbidden⟩
      have sameDefinition : other = definition := Option.some.inj (foundAgain.symm.trans found)
      subst sameDefinition
      exact .call ⟨declared, specifiedAgain⟩ extracted position before forbidden

section

/-- Only `g` may make a call. -/
def layeredContract : Contract where
  raiseOnViolation := true
  declaredFunctions := ["g", "f"]
  allowedImports := .empty
  globalAllowedCalls := .empty
  specs := .ofList [("g", { FunctionSpec.empty with allowedCalls := .ofList ["evil"] }), ("f", .empty)]
  declared_nodup := by simp
  declared_specified := by simp; exact ⟨rfl, rfl⟩

def layered (text : String) : GovernedFunction where
  name := "f"
  parameters := []
  source := ⟨.python, text⟩
  body _ := .returned .null

/-- The two functions lie beside each other. -/
def flat : GovernedFunction :=
  layered "def g():\n    evil()\ndef f():\n    pass\n"

/-- Another function of the same name comes first, and lies in the one that may make the call. -/
def nested : GovernedFunction :=
  layered "def g():\n    def f():\n        evil()\ndef f():\n    pass\n"

def layeredOutline (callLine line : Nat) : ModuleOutline :=
  ⟨[⟨"g", 1, ⟨[⟨"evil", callLine⟩], []⟩⟩, ⟨"f", line, ⟨[], []⟩⟩], [], []⟩

theorem layered_clean {unit : SourceUnit} {callLine line : Nat}
    (outlined : (outline unit).toOption = some (layeredOutline callLine line)) :
    ∃ report, analyze layeredContract Analysis.standardMarker unit = .ok report ∧ report.totalCount = 0 := by
  cases found : outline unit with
  | error error =>
    rw [found] at outlined
    cases outlined
  | ok listed =>
    rw [found] at outlined
    have same : listed = layeredOutline callLine line := Option.some.inj outlined
    have noImports : Analysis.refusedImports layeredContract (layeredOutline callLine line) = [] := by
      simp [Analysis.refusedImports, Analysis.importSites, layeredOutline]
    refine ⟨Analysis.report layeredContract Analysis.standardMarker listed, by rw [analyze, found]; rfl, ?_⟩
    rw [same, Analysis.report, noImports]
    rfl

theorem clean_report_of_flat :
    (∃ report, analyze layeredContract Analysis.standardMarker flat.source = .ok report ∧ report.totalCount = 0) ∧
    flat.name ∈ layeredContract.declaredFunctions ∧ Memory.empty.cache.Faithful flat.source flat.name ∧
    ∀ name callee, ¬ EndsIn (flat.callWith layeredContract false noCalls .module ⟨[], []⟩ .empty)
      (.violation (.callNotAllowed name callee)) := by
  have outlined : (outline flat.source).toOption = some (layeredOutline 2 3) := by decide +kernel
  have outer : ((flat.source.language.constructs.firstDefinition? (parse flat.source) flat.name).map
      flat.source.language.constructs.isNested) = some false := by decide +kernel
  have declared : flat.name ∈ layeredContract.declaredFunctions := by simp [flat, layered, layeredContract]
  have faithful : Memory.empty.cache.Faithful flat.source flat.name := Cache.faithful_empty _ _
  have clean := layered_clean outlined
  refine ⟨clean, declared, faithful, ?_⟩
  obtain ⟨report, analysed, clean⟩ := clean
  have consistent := clean_report_consistent layeredContract Analysis.standardMarker report flat false noCalls
    .module ⟨[], []⟩ .empty analysed clean declared faithful
  intro name callee ended
  obtain ⟨rfl, definition, _, _, _, found, inside, _⟩ := (consistent.2 name callee).1 ended
  rw [found, Option.map_some, inside] at outer
  cases outer

/-- The report is clean, and the guarded call is refused. -/
theorem clean_report_of_nested :
    (∃ report, analyze layeredContract Analysis.standardMarker nested.source = .ok report ∧ report.totalCount = 0) ∧
    nested.name ∈ layeredContract.declaredFunctions ∧ Memory.empty.cache.Faithful nested.source nested.name ∧
    EndsIn (nested.callWith layeredContract false noCalls .module ⟨[], []⟩ .empty)
      (.violation (.callNotAllowed nested.name "evil")) := by
  have outlined : (outline nested.source).toOption = some (layeredOutline 3 4) := by decide +kernel
  have extracted : extractFunction nested.source nested.name = .ok ⟨[⟨"evil", 3⟩], []⟩ :=
    extractFunction_eq_ok (by decide +kernel)
  have declared : nested.name ∈ layeredContract.declaredFunctions := by simp [nested, layered, layeredContract]
  have faithful : Memory.empty.cache.Faithful nested.source nested.name := Cache.faithful_empty _ _
  have position : CallGraph.callNames ⟨[⟨"evil", 3⟩], []⟩ = [] ++ "evil" :: [] := rfl
  refine ⟨layered_clean outlined, declared, faithful, ?_⟩
  rw [endsIn_iff_refused faithful (by simp) (by simp) (by simp) (by simp)]
  refine .call ⟨declared, rfl⟩ extracted position (by simp) ?_
  rintro (everywhere | own)
  · cases everywhere
  · cases own

end

end GovernedFunction

end CallPolicy
