import CallPolicy.Enforcement.Script
import CallPolicy.Policy.Edit
import CallPolicy.Proofs.Enforcement.Calls
import CallPolicy.Proofs.Enforcement.Reports

/-! What a worker changes for a caller.

A body whose course does not depend on where it runs ends in a worker as it ends anywhere. What is
left of it is the report, which comes back whole unless it nests too deep.
-/

set_option autoImplicit false

namespace CallPolicy

open Json (Value)

/-! ### The course of a body -/

namespace Program

/-- The program calls no governed function, and goes on the same wherever it runs. -/
inductive SelfContained : Program → Prop where
  | done (ending : Ending (Except FunctionError Value)) : SelfContained (.done ending)
  | sleep (duration : Duration) {rest : Program} (later : rest.SelfContained) : SelfContained (.sleep duration rest)
  | count {next : Nat → Program} (later : ∀ sum, (next sum).SelfContained) : SelfContained (.count next)
  | whereabouts {next : Bool → Program} (same : next true = next false) (later : (next false).SelfContained) :
      SelfContained (.whereabouts next)

/-- A run where there is nothing to call. -/
def alone (program : Program) (memory : Memory) : Ran (Except FunctionError Value) :=
  program.run false (fun _ _ _ => none) memory

theorem SelfContained.run_eq {program : Program} (contained : program.SelfContained) (isolated : Bool)
    (call : String → Arguments → Memory → Option (Ran Reply)) (memory : Memory) :
    program.run isolated call memory = program.alone memory := by
  induction contained generalizing memory with
  | done ending => rfl
  | sleep duration later ih =>
    rw [run, ih]
    rfl
  | count later ih =>
    rw [run, ih]
    rfl
  | @whereabouts next same later ih =>
    -- Where it runs is asked, but the answer makes no difference.
    have here : next isolated = next false := by
      cases isolated
      · rfl
      · exact same
    rw [run, here, ih]
    rfl

/-- A body that calls nothing does not look at the call graphs that are known. -/
theorem SelfContained.alone_cache {program : Program} (contained : program.SelfContained) (memory : Memory)
    (cache : Cache) :
    (program.alone { memory with cache }).ending = (program.alone memory).ending ∧
      (program.alone { memory with cache }).elapsed = (program.alone memory).elapsed := by
  unfold alone
  induction contained generalizing memory with
  | done ending => exact ⟨rfl, rfl⟩
  | sleep duration later ih =>
    obtain ⟨ending, elapsed⟩ := ih memory
    exact ⟨ending, congrArg (duration.nanoseconds + ·) elapsed⟩
  | count later ih => exact ih (memory.counter + 1) { memory with counter := memory.counter + 1 }
  | whereabouts same later ih => exact ih memory

end Program

namespace WorkerReport

/-- The end of a body that the report tells of. -/
def origin : WorkerReport → Ending (Except FunctionError Value)
  | returned value => .delivered (.ok value)
  | failed error => .delivered (.error error)
  | panicked message => .panicked (some message)

theorem ofEnding_origin (report : WorkerReport) : ofEnding report.origin = some report := by
  cases report <;> rfl

/-- Only a value can be too deep to cross over. -/
theorem crosses_iff (report : WorkerReport) :
    report.Crosses ↔ ∀ value, report.origin = .delivered (.ok value) → value.depth < Json.depthLimit := by
  cases report with
  | returned value =>
    constructor
    · intro crosses other same
      cases same
      exact crosses
    · intro fits
      exact fits value rfl
  | failed error => simp [Crosses, origin]
  | panicked message => simp [Crosses, origin]

theorem ending_received (report : WorkerReport) (function : GovernedFunction) (spec : FunctionSpec) :
    report.ending.map (function.received spec) = report.origin.map (·.mapError .function) := by
  cases report <;> rfl

end WorkerReport

/-- A run comes to an end, before a limit, of which a report can tell: it returns a value that JSON
can carry, fails, or panics with a text. -/
structure FinishesBy (ran : Ran (Except FunctionError Value)) (limit : Duration) (report : WorkerReport) : Prop where
  ending : ran.ending = report.origin
  portable : report.Portable
  in_time : ran.elapsed < limit.nanoseconds

namespace FinishesBy

variable {ran : Ran (Except FunctionError Value)} {limit : Duration} {report : WorkerReport}

theorem inTime (finishes : FinishesBy ran limit report) : ran.inTime limit = true := by
  have before := finishes.in_time
  unfold Ran.inTime
  rw [finishes.ending]
  cases report <;> simp [WorkerReport.origin, before]

theorem isolate_of_crosses (finishes : FinishesBy ran limit report) (crosses : report.Crosses) (memory : Memory) :
    (ran.isolate limit memory).ending = report.ending := by
  have sent := report.transmit_of_crosses finishes.portable crosses
  simp only [Ran.isolate, finishes.inTime, if_true, finishes.ending, report.ofEnding_origin, sent]

theorem isolate_of_deep (finishes : FinishesBy ran limit report) (deep : ¬ report.Crosses) (memory : Memory) :
    ∃ column, (ran.isolate limit memory).ending = .delivered (.error (.unreadable column)) := by
  obtain ⟨column, lost⟩ := report.transmit_of_deep finishes.portable deep
  refine ⟨column, ?_⟩
  simp only [Ran.isolate, finishes.inTime, if_true, finishes.ending, report.ofEnding_origin, lost]

end FinishesBy

/-! ### Contracts that differ in one time limit -/

/-- The specification with another time limit. -/
def FunctionSpec.withBudget (budget : Binary64) (spec : FunctionSpec) : FunctionSpec :=
  { spec with maxRuntimeSeconds := budget }

/-- The second contract is the first one with another time limit for a function. -/
def Contract.Rebudgeted (name : String) (budget : Binary64) (timed untimed : Contract) : Prop :=
  untimed.toDraft = timed.toDraft.applyEdit (.spec name (.maxRuntimeSeconds budget))

namespace Contract.Rebudgeted

variable {name : String} {budget : Binary64} {timed untimed : Contract}

theorem raise_eq (rebudgeted : Rebudgeted name budget timed untimed) :
    untimed.raiseOnViolation = timed.raiseOnViolation := by
  have edited := congrArg Draft.raiseOnViolation rebudgeted
  exact edited

theorem isDeclared_eq (rebudgeted : Rebudgeted name budget timed untimed) (function : String) :
    untimed.isDeclared function = timed.isDeclared function := by
  have edited := congrArg (fun draft => draft.declaredFunctions.contains function) rebudgeted
  exact edited

theorem spec?_eq (rebudgeted : Rebudgeted name budget timed untimed) (function : String) :
    untimed.spec? function =
      if function = name then (timed.spec? name).map (FunctionSpec.withBudget budget) else timed.spec? function := by
  have edited := congrArg (fun draft => draft.specs.get? function) rebudgeted
  simp only [Draft.applyEdit, Keyed.get?_modify] at edited
  exact edited

theorem isCallAllowed_eq (rebudgeted : Rebudgeted name budget timed untimed) (function call : String) :
    untimed.isCallAllowed function call = timed.isCallAllowed function call := by
  have globals : untimed.globalAllowedCalls.contains call = timed.globalAllowedCalls.contains call := by
    have edited := congrArg (fun draft => draft.globalAllowedCalls.contains call) rebudgeted
    exact edited
  have own : (untimed.spec? function).any (·.allowedCalls.contains call) =
      (timed.spec? function).any (·.allowedCalls.contains call) := by
    rw [rebudgeted.spec?_eq]
    split
    · next same =>
      subst same
      cases timed.spec? function <;> rfl
    · rfl
  rw [isCallAllowed, isCallAllowed, globals, own]

theorem declaredSpec?_eq (rebudgeted : Rebudgeted name budget timed untimed) :
    untimed.declaredSpec? name = (timed.declaredSpec? name).map (FunctionSpec.withBudget budget) := by
  rw [declaredSpec?, declaredSpec?, rebudgeted.isDeclared_eq, rebudgeted.spec?_eq, if_pos rfl]
  split <;> rfl

theorem deliver_eq (rebudgeted : Rebudgeted name budget timed untimed) (result : Except CallError Value) :
    GovernedFunction.deliver untimed result = GovernedFunction.deliver timed result := by
  rcases result with (violation | _ | _ | _) | value
  · rw [GovernedFunction.deliver, GovernedFunction.deliver, rebudgeted.raise_eq]
  all_goals rfl

end Contract.Rebudgeted

namespace GovernedFunction

variable {function : GovernedFunction} {timed untimed : Contract} {budget : Binary64}

theorem firstInvalid_withBudget (spec : FunctionSpec) (bound : Bound) :
    (spec.withBudget budget).firstInvalid bound = spec.firstInvalid bound := by
  induction bound with
  | nil => rfl
  | cons entry rest ih =>
    simp only [FunctionSpec.firstInvalid, ih]
    rfl

theorem checkArguments_withBudget (spec : FunctionSpec) (arguments : Arguments) :
    function.checkArguments (spec.withBudget budget) arguments = function.checkArguments spec arguments := by
  unfold checkArguments
  simp only [firstInvalid_withBudget]
  rfl

theorem checkCall_rebudgeted (rebudgeted : Contract.Rebudgeted function.name budget timed untimed) (spec : FunctionSpec)
    (graph : CallGraph) (caller : Caller) (arguments : Arguments) :
    function.checkCall untimed (spec.withBudget budget) graph caller arguments =
      function.checkCall timed spec graph caller arguments := by
  unfold checkCall Contract.firstRefusedCall
  simp only [rebudgeted.isCallAllowed_eq, checkArguments_withBudget]
  rfl

/-- The checks before the body have nothing to do with its time. -/
theorem check_rebudgeted (rebudgeted : Contract.Rebudgeted function.name budget timed untimed) (caller : Caller)
    (arguments : Arguments) (cache : Cache) :
    function.check untimed caller arguments cache =
      ((function.check timed caller arguments cache).1.map fun passed => (passed.1.withBudget budget, passed.2),
        (function.check timed caller arguments cache).2) := by
  unfold check
  rw [rebudgeted.declaredSpec?_eq]
  cases timed.declaredSpec? function.name with
  | none => rfl
  | some spec =>
    simp only [Option.map_some, checkCall_rebudgeted rebudgeted]
    obtain ⟨answer, cache⟩ := cache.functionGraph function.source function.name
    cases answer with
    | error error => rfl
    | ok graph =>
      simp only
      cases function.checkCall timed spec graph caller arguments <;> rfl

/-! ### The two calls -/

section

variable {caller : Caller} {arguments : Arguments} {memory : Memory} {spec : FunctionSpec} {bound : Bound}
  {isolated : Bool} {call : Bool → Caller → String → Arguments → Memory → Option (Ran Reply)} {report : WorkerReport}
  {cache : Cache} {limit : Duration}

theorem execute_untimed (unlimited : spec.maxRuntimeSeconds.isPositive = false)
    (contained : (function.body ⟨function.name, bound⟩).SelfContained) :
    (function.execute spec bound isolated caller call memory).ending =
      ((function.body ⟨function.name, bound⟩).alone memory).ending.map (·.mapError .function) := by
  rw [← contained.run_eq isolated (call isolated (.function function.name)) memory]
  exact (executes_iff _).1 (.inProcess unlimited rfl)

theorem execute_timed (limited : spec.maxRuntimeSeconds.isPositive = true)
    (contained : (function.body ⟨function.name, bound⟩).SelfContained) :
    (function.execute spec bound false caller call memory).ending =
      (((function.body ⟨function.name, bound⟩).alone memory).isolate
        (Duration.ofPositive spec.maxRuntimeSeconds) memory).ending.map (function.received spec) := by
  rw [← contained.run_eq true (call true (.function function.name)) memory]
  exact (executes_iff _).1 (.inWorker (FunctionSpec.timeout_of_positive limited) rfl rfl)

/-- What a call makes of the end of its body. -/
def concluded (function : GovernedFunction) (contract : Contract) (spec : FunctionSpec)
    (ending : Ending (Except CallError Value)) : Ending Reply :=
  ending.map fun result => deliver contract (result.bind (function.checkResult spec))

theorem ending_of_passed {contract : Contract}
    (passed : function.check contract caller arguments memory.cache = (.ok (spec, bound), cache)) :
    (function.callWith contract isolated call caller arguments memory).ending =
      function.concluded contract spec (function.execute spec bound isolated caller call { memory with cache }).ending :=
  congrArg Ran.ending (callWith_of_passed passed)

theorem ending_of_rebudgeted (rebudgeted : Contract.Rebudgeted function.name budget timed untimed)
    (passed : function.check timed caller arguments memory.cache = (.ok (spec, bound), cache)) :
    (function.callWith untimed isolated call caller arguments memory).ending =
      function.concluded timed spec
        (function.execute (spec.withBudget budget) bound isolated caller call { memory with cache }).ending := by
  have passed : function.check untimed caller arguments memory.cache = (.ok (spec.withBudget budget, bound), cache) := by
    rw [check_rebudgeted rebudgeted, passed]
    rfl
  rw [ending_of_passed passed, concluded, concluded]
  simp only [rebudgeted.deliver_eq]
  rfl

theorem concluded_origin_ne_stalled {contract : Contract} (report : WorkerReport) :
    function.concluded contract spec (report.origin.map (·.mapError .function)) ≠ .stalled := by
  cases report <;> simp [concluded, WorkerReport.origin, Ending.map]

/-- A worker that cannot be understood does not look like a value, nor like one that is refused. -/
theorem concluded_worker_ne {contract : Contract} (value : Value) (error : WorkerError) :
    function.concluded contract spec (.delivered (.error (.worker error))) ≠
      function.concluded contract spec (.delivered (.ok value)) := by
  intro same
  have same : deliver contract (.error (.worker error)) = deliver contract (function.checkResult spec value) :=
    Ending.delivered.inj same
  unfold checkResult at same
  split at same
  · exact deliver_error_ne_ok _ value same
  · cases deliver_error_injective same

/-- After the checks, a limit shows exactly in a worker, and where the report is too deep. -/
theorem concluded_timed_iff {contract : Contract} (limited : spec.maxRuntimeSeconds.isPositive = true)
    (contained : (function.body ⟨function.name, bound⟩).SelfContained)
    (finishes : FinishesBy ((function.body ⟨function.name, bound⟩).alone memory)
      (Duration.ofPositive spec.maxRuntimeSeconds) report) :
    function.concluded contract spec (function.execute spec bound isolated caller call memory).ending =
        function.concluded contract spec (report.origin.map (·.mapError .function)) ↔
      isolated = false ∧ report.Crosses := by
  cases isolated with
  | true =>
    -- A worker never starts another one, whereas the body without a limit comes to its end.
    rw [(executes_iff .stalled).1 (.waiting limited rfl)]
    constructor
    · intro ended
      exact absurd ended.symm (concluded_origin_ne_stalled report)
    · rintro ⟨outside, _⟩
      cases outside
  | false =>
    rw [execute_timed limited contained]
    by_cases crosses : report.Crosses
    · rw [finishes.isolate_of_crosses crosses, report.ending_received]
      exact ⟨fun _ => ⟨rfl, crosses⟩, fun _ => rfl⟩
    · obtain ⟨column, ending⟩ := finishes.isolate_of_deep crosses memory
      rw [ending]
      cases report with
      | failed error => exact absurd trivial crosses
      | panicked message => exact absurd trivial crosses
      | returned value =>
        -- The value is delivered or refused by the one call, and lost by the other.
        constructor
        · intro ended
          exact absurd ended (concluded_worker_ne value (.unreadable column))
        · rintro ⟨_, fits⟩
          exact absurd fits crosses

end

/-- A call that is limited in time ends just as one that is not, unless it is made in a worker, or
its body returns a value that nests so deep that the report of it cannot be read. -/
theorem isolation_transparent (function : GovernedFunction) (timed untimed : Contract) (spec : FunctionSpec)
    (budget : Binary64) (isolated : Bool) (call : Bool → Caller → String → Arguments → Memory → Option (Ran Reply))
    (caller : Caller) (arguments : Arguments) (memory : Memory)
    (specified : timed.specs.get? function.name = some spec) (limited : spec.maxRuntimeSeconds.isPositive = true)
    (rebudgeted : Contract.Rebudgeted function.name budget timed untimed) (unlimited : budget.isPositive = false)
    (contained : ∀ bound, (function.body ⟨function.name, bound⟩).SelfContained)
    (finishes : ∀ bound, (function.check timed caller arguments memory.cache).1 = .ok (spec, bound) →
      ∃ report, FinishesBy ((function.body ⟨function.name, bound⟩).alone memory)
        (Duration.ofPositive spec.maxRuntimeSeconds) report) :
    (function.callWith timed isolated call caller arguments memory).ending =
        (function.callWith untimed isolated call caller arguments memory).ending ↔
      ∀ bound, (function.check timed caller arguments memory.cache).1 = .ok (spec, bound) →
        isolated = false ∧ ∀ value,
          ((function.body ⟨function.name, bound⟩).alone memory).ending = .delivered (.ok value) →
            value.depth < Json.depthLimit := by
  rcases checked : function.check timed caller arguments memory.cache with ⟨error | ⟨own, bound⟩, cache⟩
  · have refused : (function.check untimed caller arguments memory.cache).1 = .error error := by
      rw [check_rebudgeted rebudgeted, checked]
      rfl
    rw [(callWith_of_refused (congrArg Prod.fst checked)).1, (callWith_of_refused refused).1, rebudgeted.deliver_eq]
    simp
  · have same : own = spec := by
      have found := specified_of_check (congrArg Prod.fst checked)
      exact Option.some.inj (found.symm.trans specified)
    subst same
    obtain ⟨report, finishes⟩ := finishes bound (congrArg Prod.fst checked)
    have contained := contained bound
    -- The checks may have added a call graph to the memory; the body does not see it.
    obtain ⟨sameEnding, sameElapsed⟩ := contained.alone_cache memory cache
    have entered : FinishesBy ((function.body ⟨function.name, bound⟩).alone { memory with cache })
        (Duration.ofPositive own.maxRuntimeSeconds) report :=
      ⟨sameEnding.trans finishes.ending, finishes.portable, sameElapsed ▸ finishes.in_time⟩
    have unlimited : (own.withBudget budget).maxRuntimeSeconds.isPositive = false := unlimited
    rw [ending_of_passed checked, ending_of_rebudgeted rebudgeted checked, execute_untimed unlimited contained,
      entered.ending, concluded_timed_iff limited contained entered, report.crosses_iff, ← finishes.ending]
    constructor
    · intro fits other passed
      cases passed
      exact fits
    · intro fits
      exact fits bound rfl

section

/-- A function that returns a value, whatever it is. -/
def holding (value : Value) : GovernedFunction where
  name := "f"
  parameters := []
  source := ⟨.python, "def f():\n    pass\n"⟩
  body _ := .returned value

def holdingSpec (budget : Binary64) : FunctionSpec :=
  { FunctionSpec.empty with allowedCallers := .ofList ["<module>"], maxRuntimeSeconds := budget }

def holdingContract (budget : Binary64) : Contract where
  raiseOnViolation := false
  declaredFunctions := ["f"]
  allowedImports := .empty
  globalAllowedCalls := .empty
  specs := .ofList [("f", holdingSpec budget)]
  declared_nodup := List.nodup_singleton "f"
  declared_specified := by simp; rfl

theorem holding_admitted (value : Value) (budget : Binary64) :
    (holding value).Admitted (holdingContract budget) .module ⟨[], []⟩ (holdingSpec budget) [] where
  declared := by simp [holding, holdingContract]
  specified := rfl
  calls_allowed := by
    have extracted : extractFunction ⟨.python, "def f():\n    pass\n"⟩ "f" = .ok ⟨[], []⟩ :=
      extractFunction_eq_ok (by decide +kernel)
    exact ⟨⟨[], []⟩, extracted, by simp [CallGraph.callNames]⟩
  caller_allowed := (Keyed.mem_keys_iff _ _).2 ⟨(), rfl⟩
  binds := rfl
  parameters_declared := by simp
  values_accepted := by simp

theorem holding_rebudgeted (value : Value) (first second : Binary64) :
    Contract.Rebudgeted (holding value).name second (holdingContract first) (holdingContract second) := by
  unfold Contract.Rebudgeted holdingContract holding
  simp [Draft.applyEdit, Keyed.ofList, Keyed.modify, Keyed.insert, Keyed.put, Keyed.get?, Keyed.look, Keyed.empty]
  rfl

theorem holding_contained (value : Value) (bound : Bound) : ((holding value).body ⟨"f", bound⟩).SelfContained :=
  .done _

theorem holding_finishes {value : Value} (portable : value.Portable) (bound : Bound) (memory : Memory) :
    FinishesBy (((holding value).body ⟨"f", bound⟩).alone memory) (Duration.ofPositive (.ofNat 8)) (.returned value) where
  ending := rfl
  portable := portable
  in_time := by
    have elapsed : (((holding value).body ⟨"f", bound⟩).alone memory).elapsed = 0 := rfl
    rw [elapsed]
    decide

theorem eight_isPositive : (Binary64.ofNat 8).isPositive = true :=
  rfl

theorem holding_returns {value : Value} (accepted : (holdingSpec .zero).returns.accepts value = true) :
    ((holding value).callWith (holdingContract .zero) false noCalls .module ⟨[], []⟩ .empty).ending =
      .delivered (.ok (.ok value)) := by
  have faithful : Memory.empty.cache.Faithful (holding value).source (holding value).name := Cache.faithful_empty _ _
  have unlimited : (holdingSpec .zero).maxRuntimeSeconds.isPositive = false := rfl
  have executed : (holding value).Executes false noCalls ((holding value).entered .empty) (holdingSpec .zero) []
      (.delivered (.ok value)) := .inProcess unlimited rfl
  exact (ends_iff faithful _).2 (.returned (holding_admitted value .zero) executed accepted)

def half : Binary64 :=
  .ofRatio false 1 2

theorem half_readsBack : half.ReadsBack := by
  unfold Binary64.ReadsBack
  rfl

def bundle : Value :=
  .list [.integer 1, .float half, .string "b"]

theorem bundle_portable : bundle.Portable := by
  refine .list ?_
  simp only [List.forall_mem_cons]
  exact ⟨.integer (by decide) (by decide), .float half_readsBack, .string "b", by simp⟩

theorem isolation_of_bundle :
    ((holding bundle).callWith (holdingContract (.ofNat 8)) false noCalls .module ⟨[], []⟩ .empty).ending =
      .delivered (.ok (.ok bundle)) := by
  have same := isolation_transparent (holding bundle) (holdingContract (.ofNat 8)) (holdingContract .zero)
    (holdingSpec (.ofNat 8)) .zero false noCalls .module ⟨[], []⟩ .empty rfl eight_isPositive
    (holding_rebudgeted _ _ _) (by decide +kernel) (holding_contained _)
    fun bound _ => ⟨_, holding_finishes bundle_portable bound .empty⟩
  refine (same.2 fun bound _ => ⟨rfl, fun value returned => ?_⟩).trans (holding_returns rfl)
  cases returned
  decide

theorem portable_nested {value : Value} (portable : value.Portable) (depth : Nat) :
    (Script.nested value depth).Portable := by
  induction depth with
  | zero => exact portable
  | succ depth ih =>
    refine .list ?_
    rw [List.forall_mem_singleton]
    exact ih

theorem depth_nested (value : Value) (depth : Nat) : (Script.nested value depth).depth = value.depth + depth := by
  induction depth with
  | zero => rfl
  | succ depth ih =>
    rw [Script.nested, Value.depth, Value.depths, Value.depths, ih, Nat.max_zero, Nat.add_assoc]

/-- A value in as many lists as a reader allows. -/
def tower : Value :=
  Script.nested (.integer 1) 127

theorem tower_portable : tower.Portable :=
  portable_nested (.integer (by decide) (by decide)) 127

theorem tower_deep : ¬ (WorkerReport.returned tower).Crosses := by
  rw [WorkerReport.Crosses, tower, depth_nested]
  decide

/-- The body returns in time. Without a limit the value is delivered, and with one it is lost. -/
theorem isolation_of_tower :
    Contract.Rebudgeted (holding tower).name .zero (holdingContract (.ofNat 8)) (holdingContract .zero) ∧
    (∀ bound, ((holding tower).body ⟨"f", bound⟩).SelfContained ∧
      FinishesBy (((holding tower).body ⟨"f", bound⟩).alone .empty) (Duration.ofPositive (.ofNat 8)) (.returned tower)) ∧
    ((holding tower).callWith (holdingContract .zero) false noCalls .module ⟨[], []⟩ .empty).ending =
      .delivered (.ok (.ok tower)) ∧
    ∃ column, ((holding tower).callWith (holdingContract (.ofNat 8)) false noCalls .module ⟨[], []⟩ .empty).ending =
      .delivered (.error (.worker (.unreadable column))) := by
  refine ⟨holding_rebudgeted _ _ _, fun bound => ⟨holding_contained _ _, holding_finishes tower_portable bound _⟩,
    holding_returns rfl, ?_⟩
  have faithful : Memory.empty.cache.Faithful (holding tower).source (holding tower).name := Cache.faithful_empty _ _
  have limited : (holdingSpec (.ofNat 8)).maxRuntimeSeconds.isPositive = true := eight_isPositive
  obtain ⟨column, lost⟩ := (holding_finishes tower_portable [] _).isolate_of_deep tower_deep ((holding tower).entered .empty)
  have ran : ((((holding tower).body ⟨"f", []⟩).run true (noCalls true (.function "f"))
      ((holding tower).entered .empty)).isolate (Duration.ofPositive (.ofNat 8)) ((holding tower).entered .empty)).ending =
        .delivered (.error (.unreadable column)) := by
    rw [(holding_contained tower []).run_eq]
    exact lost
  exact ⟨column, callWith_ending_of_executes faithful (holding_admitted tower _)
    (.inWorker (FunctionSpec.timeout_of_positive limited) rfl ran)⟩

end

end GovernedFunction

end CallPolicy
