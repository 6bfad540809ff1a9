import CallPolicy.Proofs.Report.Consistency
import CallPolicy.Proofs.Report.Filing

/-! What the analysis finds of a function's calls, and what a guard does about them.

The two agree where a name has one definition and this one lies in no function. Then the outline
lists it, with the graph that the guard reads.
-/

set_option autoImplicit false

namespace CallPolicy

open Syntax

variable {contract : Contract}

namespace Analysis

variable {outline : ModuleOutline}

theorem head?_callsOf (marker : String) (function : FunctionOutline)
    (declared : function.name ∈ contract.declaredFunctions)
    (only : outline.functions.filter (·.name == function.name) = [function]) :
    ((report contract marker outline).callsOf function.name).head?.map (·.subject) =
      contract.firstRefusedCall function.name function.graph := by
  rw [callsOf_report declared, only, List.flatMap_singleton, head?_refusedCalls]

/-- Where no call is refused, the calls of a function are all permitted. -/
theorem callGraph_of_permitted (function : FunctionOutline) (declared : function.name ∈ contract.declaredFunctions)
    (only : outline.functions.filter (·.name == function.name) = [function])
    (permitted : contract.firstRefusedCall function.name function.graph = none) :
    (callGraph contract outline).get? function.name = some (distinct function.graph.callNames) := by
  have isGoverned : (governed contract outline).filter (·.name == function.name) = [function] := by
    rw [governed, List.filter_comm, only, List.filter_singleton, (contract.mem_declared_iff _).2 declared, cond_true]
  have whole : permittedCalls contract function = function.graph.callNames := by
    refine List.filter_eq_self.2 fun call member => ?_
    simpa using List.find?_eq_none.1 permitted call member
  rw [callGraph_get?, isGoverned, List.foldl_cons, List.foldl_nil, whole, Option.getD_none, List.nil_append]

end Analysis

theorem outline_of_only_definition {unit : SourceUnit} {name : String} {definition : Occurrence}
    (only : unit.language.constructs.definitions (parse unit) name = [definition])
    (outer : unit.language.constructs.isNested definition = false) :
    (outlineTree unit.language.constructs (parse unit)).functions.filter (·.name == name) =
      [⟨name, definition.place.node.line, unit.language.constructs.graphOf definition⟩] := by
  rw [Constructs.outline_functions_named, only, List.filter_singleton, outer, Bool.not_false, cond_true,
    List.map_singleton]

namespace GovernedFunction

variable {function : GovernedFunction} {isolated : Bool}
  {call : Bool → Caller → String → Arguments → Memory → Option (Ran Reply)} {caller : Caller} {arguments : Arguments}
  {memory : Memory} {graph : CallGraph}

/-- A readable function is stopped for its first call that the contract refuses. -/
theorem endsIn_callNotAllowed_iff (faithful : memory.cache.Faithful function.source function.name)
    (declared : function.name ∈ contract.declaredFunctions)
    (extracted : extractFunction function.source function.name = .ok graph) (name callee : String) :
    EndsIn (function.callWith contract isolated call caller arguments memory) (.violation (.callNotAllowed name callee)) ↔
      name = function.name ∧ contract.firstRefusedCall function.name graph = some callee := by
  obtain ⟨spec, specified⟩ := Contract.specified_of_declared declared
  rw [endsIn_iff_refused faithful (by simp) (by simp) (by simp) (by simp)]
  constructor
  · intro refused
    cases refused with
    | @call own other earlier later _ passed extractedAgain position before forbidden =>
      cases Except.ok.inj (extractedAgain.symm.trans extracted)
      exact ⟨rfl, (Contract.firstRefusedCall_eq_some_iff passed.specified _ callee).2
        ⟨earlier, later, position, before, forbidden⟩⟩
  · rintro ⟨rfl, first⟩
    obtain ⟨earlier, later, position, before, forbidden⟩ :=
      (Contract.firstRefusedCall_eq_some_iff specified graph callee).1 first
    exact .call ⟨declared, specified⟩ extracted position before forbidden

theorem not_endsIn_source (faithful : memory.cache.Faithful function.source function.name)
    (extracted : extractFunction function.source function.name = .ok graph) (error : ExtractionError) :
    ¬ EndsIn (function.callWith contract isolated call caller arguments memory) (.source error) := by
  intro ended
  cases (endsIn_iff_refused faithful (by simp) (by simp) (by simp) (by simp)).1 ended with
  | unreadable _ failed =>
    rw [extracted] at failed
    cases failed

/-- Of a declared function that is defined once, and outside all functions, the analysis finds a
refused call just where a guard stops at one. The first finding names the call at which the guard
stops; without findings, the report lists the calls that the guard reads. -/
theorem call_checks_agree (contract : Contract) (marker : String) (function : GovernedFunction) (isolated : Bool)
    (call : Bool → Caller → String → Arguments → Memory → Option (Ran Reply)) (caller : Caller) (arguments : Arguments)
    (memory : Memory) (tree : Node) (definition : Occurrence) (parsed : checkedTree function.source = .ok tree)
    (declared : function.name ∈ contract.declaredFunctions)
    (only : function.source.language.constructs.definitions tree function.name = [definition])
    (outer : function.source.language.constructs.isNested definition = false)
    (faithful : memory.cache.Faithful function.source function.name) :
    ∃ report graph, analyze contract marker function.source = .ok report ∧
      extractFunction function.source function.name = .ok graph ∧
      (∀ error, ¬ EndsIn (function.callWith contract isolated call caller arguments memory) (.source error)) ∧
      (∀ name callee,
        EndsIn (function.callWith contract isolated call caller arguments memory)
            (.violation (.callNotAllowed name callee)) ↔
          name = function.name ∧ ∃ record, (report.callsOf function.name).head? = some record ∧ record.subject = callee) ∧
      (report.callsOf function.name = [] →
        ∃ names, report.callGraph.get? function.name = some names ∧ FirstOccurrences graph.callNames names) := by
  have same := checkedTree_eq_ok parsed
  subst same
  have first : function.source.language.constructs.firstDefinition? (parse function.source) function.name =
      some definition := by
    rw [Constructs.firstDefinition?_eq_head?, only, List.head?_cons]
  have extracted := extractFunction_of_firstDefinition? parsed first
  have listed := outline_of_only_definition only outer
  have found := Analysis.head?_callsOf marker ⟨function.name, _, _⟩ declared listed
  refine ⟨_, _, by rw [analyze, outline, parsed]; rfl, extracted, not_endsIn_source faithful extracted, ?_, ?_⟩
  · intro name callee
    rw [endsIn_callNotAllowed_iff faithful declared extracted, ← found, Option.map_eq_some_iff]
  · intro clean
    rw [clean, List.head?_nil, Option.map_none] at found
    exact ⟨_, Analysis.callGraph_of_permitted ⟨function.name, _, _⟩ declared listed found.symm,
      firstOccurrences_distinct _⟩

section

/-- A method that may make the given calls. -/
def methodContract (allowed : List String) : Contract where
  raiseOnViolation := false
  declaredFunctions := ["f"]
  allowedImports := .empty
  globalAllowedCalls := .empty
  specs := .ofList [("f", { FunctionSpec.empty with allowedCalls := .ofList allowed })]
  declared_nodup := List.nodup_singleton "f"
  declared_specified := by simp; rfl

/-- Its decorator and the function in it make calls as well. -/
def method : GovernedFunction where
  name := "f"
  parameters := []
  source := ⟨.python, "class A:\n    @mark()\n    def f(self):\n        def h():\n            g()\n        evil()\n        g()\n"⟩
  body _ := .returned .null

def methodGraph : CallGraph :=
  ⟨[⟨"mark", 2⟩, ⟨"g", 5⟩, ⟨"evil", 6⟩, ⟨"g", 7⟩], []⟩

theorem call_checks_of_method :
    (∃ report record, analyze (methodContract ["mark", "g"]) Analysis.standardMarker method.source = .ok report ∧
      (report.callsOf "f").head? = some record ∧ record.subject = "evil" ∧
      EndsIn (method.callWith (methodContract ["mark", "g"]) false noCalls .module ⟨[], []⟩ .empty)
        (.violation (.callNotAllowed "f" "evil"))) ∧
    ∃ report names, analyze (methodContract ["mark", "g", "evil"]) Analysis.standardMarker method.source = .ok report ∧
      report.callsOf "f" = [] ∧ report.callGraph.get? "f" = some names ∧
      FirstOccurrences ["mark", "g", "evil", "g"] names := by
  have seen : ((parse method.source).firstErrorLine,
      (method.source.language.constructs.definitions (parse method.source) method.name).map fun definition =>
        (method.source.language.constructs.isNested definition, method.source.language.constructs.graphOf definition)) =
      (none, [(false, methodGraph)]) := by decide +kernel
  obtain ⟨readable, listed⟩ := Prod.mk.inj seen
  obtain ⟨definition, only, known⟩ := List.map_eq_singleton_iff.1 listed
  obtain ⟨outer, sameGraph⟩ := Prod.mk.inj known
  have parsed : checkedTree method.source = .ok (parse method.source) := by rw [checkedTree, readable]
  have extracted : extractFunction method.source method.name = .ok methodGraph := by
    rw [← sameGraph]
    exact extractFunction_of_firstDefinition? parsed (by rw [Constructs.firstDefinition?_eq_head?, only, List.head?_cons])
  have faithful : Memory.empty.cache.Faithful method.source method.name := Cache.faithful_empty _ _
  have declared (allowed : List String) : method.name ∈ (methodContract allowed).declaredFunctions := List.mem_singleton_self _
  have agree (allowed : List String) := call_checks_agree (methodContract allowed) Analysis.standardMarker method false
    noCalls .module ⟨[], []⟩ .empty _ definition parsed (declared allowed) only outer faithful
  have stops (allowed : List String) (callee : String) :
      EndsIn (method.callWith (methodContract allowed) false noCalls .module ⟨[], []⟩ .empty)
          (.violation (.callNotAllowed method.name callee)) ↔
        method.name = method.name ∧ (methodContract allowed).firstRefusedCall method.name methodGraph = some callee :=
    endsIn_callNotAllowed_iff faithful (declared allowed) extracted _ _
  constructor
  · obtain ⟨report, _, analysed, _, _, stopped, _⟩ := agree ["mark", "g"]
    have refused : (methodContract ["mark", "g"]).firstRefusedCall method.name methodGraph = some "evil" := by decide +kernel
    have ended := (stops ["mark", "g"] "evil").2 ⟨rfl, refused⟩
    obtain ⟨_, record, first, subject⟩ := (stopped method.name "evil").1 ended
    exact ⟨report, record, analysed, first, subject, ended⟩
  · obtain ⟨report, graph, analysed, extractedAgain, _, stopped, listed⟩ := agree ["mark", "g", "evil"]
    cases Except.ok.inj (extractedAgain.symm.trans extracted)
    have permitted : (methodContract ["mark", "g", "evil"]).firstRefusedCall method.name methodGraph = none := by
      decide +kernel
    have clean : report.callsOf method.name = [] := by
      rw [← List.head?_eq_none_iff, Option.eq_none_iff_forall_ne_some]
      intro record first
      have refused := ((stops _ _).1 ((stopped method.name record.subject).2 ⟨rfl, record, first, rfl⟩)).2
      rw [permitted] at refused
      cases refused
    obtain ⟨names, entered, order⟩ := listed clean
    exact ⟨report, names, analysed, clean, entered, order⟩

end

end GovernedFunction

end CallPolicy
