import CallPolicy.Proofs.Enforcement.Lookups
import CallPolicy.Proofs.Policy.Steps
import CallPolicy.Proofs.Report.CallChecks
import CallPolicy.Proofs.Report.CallFindings

/-! Granting the calls that a guard reports.

Whoever allows each call that a guard reports, and tries again, comes to an end. A report names the first
call that is refused, the next contract permits this one in all its places, and permits no other.
-/

set_option autoImplicit false

namespace CallPolicy

/-! ### What is still refused -/

namespace Contract

variable {contract revised : Contract} {function callee : String} {graph : CallGraph}

/-- The calls in a graph that a function may not make, each once, in the order of their first uses. -/
def pending (contract : Contract) (function : String) (graph : CallGraph) : List String :=
  distinct (graph.callNames.filter fun call => ¬ contract.PermitsCall function call)

theorem head?_pending (contract : Contract) (function : String) (graph : CallGraph) :
    (contract.pending function graph).head? = contract.firstRefusedCall function graph := by
  have same : (fun call => !contract.isCallAllowed function call) =
      fun call => decide (¬ contract.PermitsCall function call) := by
    funext call
    rw [Analysis.isCallAllowed_eq, decide_not]
  -- The first name has nothing before it that it could repeat.
  rw [firstRefusedCall, same, ← List.head?_filter, pending]
  cases graph.callNames.filter fun call => ¬ contract.PermitsCall function call <;> rfl

theorem declared_of_allowCall (allowed : contract.reviseBy [.spec function (.allowCall callee)] = .ok revised) :
    revised.declaredFunctions = contract.declaredFunctions :=
  (congrArg Draft.declaredFunctions (reviseBy_spec_eq_ok_iff.1 allowed) :)

/-- A function with a specification may make the call that is allowed to it, and no other new one. -/
theorem permitsCall_of_allowCall (allowed : contract.reviseBy [.spec function (.allowCall callee)] = .ok revised)
    (declared : function ∈ contract.declaredFunctions) (call : String) :
    revised.PermitsCall function call ↔ contract.PermitsCall function call ∨ call = callee := by
  have revision := reviseBy_spec_eq_ok_iff.1 allowed
  have globals : revised.globalAllowedCalls = contract.globalAllowedCalls :=
    (congrArg Draft.globalAllowedCalls revision :)
  have specs := congrArg Draft.specs revision
  obtain ⟨spec, specified⟩ := Contract.specified_of_declared declared
  have added : revised.specs.get? function = some { spec with allowedCalls := Names.add spec.allowedCalls callee } := by
    rw [specs, Keyed.get?_modify, if_pos rfl, specified]
    rfl
  simp only [PermitsCall, globals, added, specified, Option.some.injEq, exists_eq_left', Names.add, Keyed.mem_keys_insert]
  rw [or_comm (a := call = callee), or_assoc]

theorem pending_of_allowCall (allowed : contract.reviseBy [.spec function (.allowCall callee)] = .ok revised)
    (declared : function ∈ contract.declaredFunctions) :
    revised.pending function graph = (contract.pending function graph).filter (· != callee) := by
  rw [pending, pending, ← distinct_filter, List.filter_filter]
  simp only [permitsCall_of_allowCall allowed declared, not_or, Bool.decide_and, decide_not, Bool.and_comm, bne, beq_eq_decide]

/-- Allowing the call that is refused first leaves the others to be refused. -/
theorem pending_of_granted {later : List String} (refused : contract.pending function graph = callee :: later)
    (allowed : contract.reviseBy [.spec function (.allowCall callee)] = .ok revised)
    (declared : function ∈ contract.declaredFunctions) : revised.pending function graph = later := by
  have once : (callee :: later).Nodup := refused ▸ nodup_distinct _
  rw [pending_of_allowCall allowed declared, refused, List.filter_cons_of_neg (by simp), List.filter_eq_self]
  intro call member
  have different : call ≠ callee := fun same => (List.nodup_cons.1 once).1 (same ▸ member)
  simpa using different

end Contract

/-! ### One attempt -/

/-- The function and its call that a guard reports as not allowed. -/
def Ending.callNotAllowed? : Ending Reply → Option (String × String)
  | .delivered reply =>
    match GovernedFunction.failure? reply with
    | some (.violation (.callNotAllowed function call)) => some (function, call)
    | _ => none
  | _ => none

/-- What a call of a function is made with. -/
structure Attempt where
  isolated : Bool
  call : Bool → Caller → String → Arguments → Memory → Option (Ran Reply)
  caller : Caller
  arguments : Arguments

namespace GovernedFunction

def attempt (function : GovernedFunction) (contract : Contract) (attempt : Attempt) (memory : Memory) : Ran Reply :=
  function.callWith contract attempt.isolated attempt.call attempt.caller attempt.arguments memory

theorem callNotAllowed?_eq_some_iff {ran : Ran Reply} {name callee : String} :
    ran.ending.callNotAllowed? = some (name, callee) ↔ EndsIn ran (.violation (.callNotAllowed name callee)) := by
  rw [EndsIn]
  cases ran.ending with
  | delivered reply =>
    simp only [Ending.callNotAllowed?, Ending.delivered.injEq, exists_eq_left']
    split <;> simp_all
  | _ => simp [Ending.callNotAllowed?]

variable {function : GovernedFunction} {contract : Contract} {graph : CallGraph} {memory : Memory}

/-- Whoever calls, and how, is told of the first call that is still refused. -/
theorem callNotAllowed?_attempt (attempt : Attempt) (declared : function.name ∈ contract.declaredFunctions)
    (extracted : extractFunction function.source function.name = .ok graph)
    (faithful : memory.cache.Faithful function.source function.name) :
    (function.attempt contract attempt memory).ending.callNotAllowed? =
      (contract.pending function.name graph).head?.map fun callee => (function.name, callee) := by
  apply Option.ext
  rintro ⟨name, callee⟩
  rw [callNotAllowed?_eq_some_iff, GovernedFunction.attempt, endsIn_callNotAllowed_iff faithful declared extracted,
    Contract.head?_pending, Option.map_eq_some_iff]
  constructor
  · rintro ⟨rfl, first⟩
    exact ⟨callee, first, rfl⟩
  · rintro ⟨_, first, same⟩
    cases same
    exact ⟨rfl, first⟩

theorem faithful_of_reported {attempt : Attempt} {report : String × String}
    (faithful : memory.cache.Faithful function.source function.name)
    (reported : (function.attempt contract attempt memory).ending.callNotAllowed? = some report) :
    (function.attempt contract attempt memory).memory.cache.Faithful function.source function.name := by
  have refused := (endsIn_iff_refused faithful (by simp) (by simp) (by simp) (by simp)).1
    (callNotAllowed?_eq_some_iff.1 reported)
  -- The body did not run, so all that the cache has gained is the graph of this function.
  rw [GovernedFunction.attempt, memory_of_refused (refused.check faithful), lookedUp, ownLookup]
  split
  · exact faithful.functionGraph
  · exact faithful

/-! ### Repeated attempts -/

/-- What comes of repeated attempts: the reports that were followed, and the contract and the memory
that are left. -/
structure Granted where
  reports : List (String × String)
  contract : Contract
  memory : Memory

/-- Call a function again and again. As often as the guard reports a call that is not allowed, allow it,
and make the next attempt under the new contract, with the same memory. -/
def follow (function : GovernedFunction) : List Attempt → Contract → Memory → Except SchemaError Granted
  | [], contract, memory => .ok ⟨[], contract, memory⟩
  | attempt :: later, contract, memory =>
    let ran := function.attempt contract attempt memory
    match ran.ending.callNotAllowed? with
    | none => .ok ⟨[], contract, ran.memory⟩
    | some report => do
      let revised ← contract.reviseBy [.spec report.1 (.allowCall report.2)]
      let granted ← function.follow later revised ran.memory
      return { granted with reports := report :: granted.reports }

/-- What a number of attempts come to: each took the first call from those that were still refused. -/
structure Granted.FollowedFrom (granted : Granted) (function : GovernedFunction) (contract : Contract) (graph : CallGraph)
    (attempts : Nat) : Prop where
  reports : granted.reports =
    ((contract.pending function.name graph).take attempts).map fun callee => (function.name, callee)
  pending : granted.contract.pending function.name graph = (contract.pending function.name graph).drop attempts
  declared : function.name ∈ granted.contract.declaredFunctions
  faithful : attempts ≤ (contract.pending function.name graph).length →
    granted.memory.cache.Faithful function.source function.name

theorem follow_succeeds (attempts : List Attempt) (declared : function.name ∈ contract.declaredFunctions)
    (extracted : extractFunction function.source function.name = .ok graph)
    (faithful : memory.cache.Faithful function.source function.name) :
    ∃ granted, function.follow attempts contract memory = .ok granted ∧
      granted.FollowedFrom function contract graph attempts.length := by
  induction attempts generalizing contract memory with
  | nil => exact ⟨_, rfl, by simp, by simp, declared, fun _ => faithful⟩
  | cons attempt later ih =>
    have told := callNotAllowed?_attempt attempt declared extracted faithful
    rw [follow]
    cases refused : contract.pending function.name graph with
    | nil =>
      rw [refused, List.head?_nil, Option.map_none] at told
      rw [told]
      exact ⟨_, rfl, by simp [refused], by simp [refused], declared, by simp [refused]⟩
    | cons callee others =>
      rw [refused, List.head?_cons, Option.map_some] at told
      obtain ⟨revised, allowed⟩ := contract.exists_reviseBy_spec function.name (.allowCall callee)
      have rest := Contract.pending_of_granted refused allowed declared
      -- The next attempt finds the rest of the calls, and a cache that still tells the truth.
      obtain ⟨granted, followed, after⟩ := ih
        (Contract.declared_of_allowCall allowed ▸ declared) (faithful_of_reported faithful told)
      rw [told]
      refine ⟨_, bind_eq_ok_iff.2 ⟨revised, allowed, bind_eq_ok_iff.2 ⟨granted, followed, rfl⟩⟩, ?_⟩
      exact {
        reports := by simp [after.reports, rest, refused]
        pending := by rw [after.pending, rest, refused, List.length_cons, List.drop_succ_cons]
        declared := after.declared
        faithful := fun within => after.faithful (by simpa [rest, refused] using within) }

/-- To follow the reports of calls that are not allowed always comes to an end. The names that the contract
refuses in the graph of a declared function are reported one after another, each once, in the order of
their first uses, and each can be allowed. Afterwards no call of the function is stopped for its calls. -/
theorem granting_settles (function : GovernedFunction) (contract : Contract) (memory : Memory) (graph : CallGraph)
    (declared : function.name ∈ contract.declaredFunctions)
    (extracted : extractFunction function.source function.name = .ok graph)
    (faithful : memory.cache.Faithful function.source function.name) :
    ∃ names : List String, names.Nodup ∧
      FirstOccurrences (graph.callNames.filter fun call => ¬ contract.PermitsCall function.name call) names ∧
      ∀ attempts : List Attempt, ∃ granted, function.follow attempts contract memory = .ok granted ∧
        granted.reports = (names.take attempts.length).map (fun callee => (function.name, callee)) ∧
        (attempts.length ≤ names.length → granted.memory.cache.Faithful function.source function.name) ∧
        (names.length ≤ attempts.length → ∀ isolated call caller arguments (later : Memory),
          later.cache.Faithful function.source function.name → ∀ name callee,
            ¬ EndsIn (function.callWith granted.contract isolated call caller arguments later)
              (.violation (.callNotAllowed name callee))) := by
  refine ⟨contract.pending function.name graph, nodup_distinct _, firstOccurrences_distinct _, ?_⟩
  intro attempts
  obtain ⟨granted, followed, after⟩ := function.follow_succeeds attempts declared extracted faithful
  refine ⟨granted, followed, after.reports, after.faithful, ?_⟩
  intro enough isolated call caller arguments later truthful name callee ended
  have none : granted.contract.pending function.name graph = [] := by
    rw [after.pending, List.drop_eq_nil_of_le enough]
  obtain ⟨_, first⟩ := (endsIn_callNotAllowed_iff truthful after.declared extracted name callee).1 ended
  rw [← Contract.head?_pending, none] at first
  cases first

section

/-- It makes calls in calls, and one of them again. -/
def stacking : GovernedFunction where
  name := "f"
  parameters := [⟨"x", none⟩]
  source := ⟨.python, "def f(x):\n    g(k(h(x)))\n    g(x)\n"⟩
  body _ := .returned .null

def stackingContract : Contract where
  raiseOnViolation := true
  declaredFunctions := ["f"]
  allowedImports := .empty
  globalAllowedCalls := .ofList ["k"]
  specs := .ofList [("f", { FunctionSpec.empty with
    parameters := .ofList [("x", .integer)], allowedCallers := .ofList ["<module>"] })]
  declared_nodup := List.nodup_singleton "f"
  declared_specified := by simp; rfl

def plainly : Attempt := ⟨false, noCalls, .module, ⟨[.integer 1], []⟩⟩

/-- Two of the names are not allowed, and the third attempt is not stopped. -/
theorem granting_of_stacking :
    ∃ granted, stacking.follow [plainly, plainly, plainly] stackingContract .empty = .ok granted ∧
      granted.reports = [("f", "g"), ("f", "h")] ∧
      ∀ name callee, ¬ EndsIn (stacking.callWith granted.contract false noCalls .module ⟨[.integer 1], []⟩ .empty)
        (.violation (.callNotAllowed name callee)) := by
  have extracted : extractFunction stacking.source stacking.name =
      .ok ⟨[⟨"g", 2⟩, ⟨"k", 2⟩, ⟨"h", 2⟩, ⟨"g", 3⟩], []⟩ := by decide +kernel
  have faithful : Memory.empty.cache.Faithful stacking.source stacking.name := Cache.faithful_empty _ _
  obtain ⟨names, _, first, settles⟩ := granting_settles stacking stackingContract .empty _ (List.mem_singleton_self _)
    extracted faithful
  have refused : (["g", "k", "h", "g"].filter fun call => ¬ stackingContract.PermitsCall stacking.name call) =
      ["g", "h", "g"] := by decide
  have named : names = ["g", "h"] := first.unique (refused ▸ firstOccurrences_distinct ["g", "h", "g"])
  subst named
  obtain ⟨granted, followed, reports, _, settled⟩ := settles [plainly, plainly, plainly]
  exact ⟨granted, followed, reports, settled (by decide) false noCalls .module ⟨[.integer 1], []⟩ .empty faithful⟩

end

end GovernedFunction

end CallPolicy
