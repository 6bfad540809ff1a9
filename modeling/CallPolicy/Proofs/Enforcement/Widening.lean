import CallPolicy.Proofs.Enforcement.Delivery

/-! What a contract that allows more changes.

A call that is stopped may come further, though perhaps only to another call in its graph that is
still refused. A call that has passed the check of its caller is the same in all respects, since
nothing after that check looks at what was added.
-/

set_option autoImplicit false

namespace CallPolicy

open Json (Value)

/-! ### Which check stops a call -/

/-- The checks of a guarded call, the run of its body among them. -/
inductive Checkpoint where
  | declaration
  | callGraph
  | caller
  | binding
  | parameterNames
  | parameterValues
  | execution
  | result
  deriving DecidableEq, Repr, Inhabited

/-- The place of a check in their order. -/
def Checkpoint.rank : Checkpoint → Nat
  | declaration => 1
  | callGraph => 2
  | caller => 3
  | binding => 4
  | parameterNames => 5
  | parameterValues => 6
  | execution => 7
  | result => 8

theorem Checkpoint.declaration_rank_le (check : Checkpoint) : declaration.rank ≤ check.rank := by
  cases check <;> simp [rank]

def Violation.checkpoint : Violation → Checkpoint
  | functionNotDeclared _ => .declaration
  | callNotAllowed _ _ => .callGraph
  | callerNotAllowed _ _ => .caller
  | unboundParameters _ _ => .binding
  | parameterNotDeclared _ _ => .parameterNames
  | parameterInvalid _ _ _ => .parameterValues
  | timeoutExceeded _ _ => .execution
  | returnInvalid _ _ _ => .result

/-- The check that makes an error. A source that cannot be read has no call graph. -/
def CallError.checkpoint : CallError → Checkpoint
  | violation breach => breach.checkpoint
  | source _ => .callGraph
  | function _ | worker _ => .execution

/-- The first check that a call fails. Of one that does not come back this is the run of its body. -/
def Ending.failedCheck? : Ending Reply → Option Checkpoint
  | delivered reply => (GovernedFunction.failure? reply).map CallError.checkpoint
  | panicked _ | exited | stalled => some .execution

/-! ### Wider contracts -/

/-- The second specification may allow more calls and callers, and is the first one otherwise. -/
structure FunctionSpec.Widens (spec larger : FunctionSpec) : Prop where
  parameters : larger.parameters = spec.parameters
  returns : larger.returns = spec.returns
  maxRuntimeSeconds : larger.maxRuntimeSeconds = spec.maxRuntimeSeconds
  allowedCalls : spec.allowedCalls.keys ⊆ larger.allowedCalls.keys
  allowedCallers : spec.allowedCallers.keys ⊆ larger.allowedCallers.keys

/-- The second contract declares what the first one does, and allows at least as much to the function. -/
structure Contract.Widens (contract wider : Contract) (function : String) : Prop where
  raiseOnViolation : wider.raiseOnViolation = contract.raiseOnViolation
  declaredFunctions : contract.declaredFunctions ⊆ wider.declaredFunctions
  globalAllowedCalls : contract.globalAllowedCalls.keys ⊆ wider.globalAllowedCalls.keys
  specified : ∀ spec, contract.specs.get? function = some spec →
    ∃ larger, wider.specs.get? function = some larger ∧ spec.Widens larger

namespace FunctionSpec.Widens

variable {spec larger : FunctionSpec}

theorem firstUndeclared_eq (widens : spec.Widens larger) (bound : Bound) :
    larger.firstUndeclared bound = spec.firstUndeclared bound := by
  rw [firstUndeclared, firstUndeclared, widens.parameters]

theorem firstInvalid_eq (widens : spec.Widens larger) (bound : Bound) :
    larger.firstInvalid bound = spec.firstInvalid bound := by
  induction bound with
  | nil => rfl
  | cons entry rest ih => simp only [firstInvalid, ih, widens.parameters]

theorem timeout_eq (widens : spec.Widens larger) : larger.timeout = spec.timeout := by
  rw [timeout, timeout, widens.maxRuntimeSeconds]

end FunctionSpec.Widens

namespace Contract.Widens

variable {contract wider : Contract} {function : String} {spec larger : FunctionSpec}

theorem declaredSpec? (widens : contract.Widens wider function) (found : contract.declaredSpec? function = some spec) :
    ∃ larger, wider.declaredSpec? function = some larger ∧ spec.Widens larger := by
  obtain ⟨declared, specified⟩ := (declaredSpec?_eq_some_iff _ _ _).1 found
  obtain ⟨larger, specified, widened⟩ := widens.specified spec specified
  exact ⟨larger, (declaredSpec?_eq_some_iff _ _ _).2 ⟨widens.declaredFunctions declared, specified⟩, widened⟩

theorem isCallAllowed (widens : contract.Widens wider function) {call : String}
    (allowed : contract.isCallAllowed function call = true) : wider.isCallAllowed function call = true := by
  unfold Contract.isCallAllowed at allowed ⊢
  rw [Bool.or_eq_true] at allowed ⊢
  rcases allowed with everywhere | own
  · left
    rw [Keyed.contains_iff, ← Keyed.mem_keys_iff] at everywhere ⊢
    exact widens.globalAllowedCalls everywhere
  · right
    rw [Option.any_eq_true] at own ⊢
    obtain ⟨spec, specified, listed⟩ := own
    obtain ⟨larger, specified, widened⟩ := widens.specified spec specified
    rw [Keyed.contains_iff, ← Keyed.mem_keys_iff] at listed
    refine ⟨larger, specified, ?_⟩
    rw [Keyed.contains_iff, ← Keyed.mem_keys_iff]
    exact widened.allowedCalls listed

/-- Where no call is refused, none is refused by a wider contract. -/
theorem firstRefusedCall_eq_none (widens : contract.Widens wider function) {graph : CallGraph}
    (permitted : contract.firstRefusedCall function graph = none) : wider.firstRefusedCall function graph = none := by
  unfold firstRefusedCall at permitted ⊢
  rw [List.find?_eq_none] at permitted ⊢
  intro call made
  have allowed : contract.isCallAllowed function call = true := by simpa using permitted call made
  simp [widens.isCallAllowed allowed]

theorem deliver_eq (widens : contract.Widens wider function) (result : Except CallError Value) :
    GovernedFunction.deliver wider result = GovernedFunction.deliver contract result := by
  rcases result with (violation | _ | _ | _) | value
  · rw [GovernedFunction.deliver, GovernedFunction.deliver, widens.raiseOnViolation]
  all_goals rfl

end Contract.Widens

namespace GovernedFunction

variable {function : GovernedFunction} {contract wider : Contract} {spec larger : FunctionSpec} {caller : Caller}
  {arguments : Arguments} {graph : CallGraph} {cache : Cache} {bound : Bound}

/-! ### The checks before the body -/

theorem checkArguments_widened (widened : spec.Widens larger) (arguments : Arguments) :
    function.checkArguments larger arguments = function.checkArguments spec arguments := by
  simp only [checkArguments, widened.firstUndeclared_eq, widened.firstInvalid_eq]

/-- The checks of the arguments come after the one of the caller. -/
theorem rank_of_checkArguments {violation : Violation}
    (refused : function.checkArguments spec arguments = .error violation) :
    Checkpoint.caller.rank < violation.checkpoint.rank := by
  unfold checkArguments at refused
  split at refused
  · cases refused
    simp [Violation.checkpoint, Checkpoint.rank]
  · split at refused
    · cases refused
      simp [Violation.checkpoint, Checkpoint.rank]
    · split at refused
      · cases refused
        simp [Violation.checkpoint, Checkpoint.rank]
      · cases refused

theorem rank_of_checkCall {violation : Violation}
    (refused : function.checkCall contract spec graph caller arguments = .error violation) :
    Checkpoint.callGraph.rank ≤ violation.checkpoint.rank := by
  unfold checkCall at refused
  split at refused
  · cases refused
    exact Nat.le_refl _
  · split at refused
    · exact Nat.le_of_lt (Nat.lt_of_succ_lt (rank_of_checkArguments refused))
    · cases refused
      exact Nat.le_succ _

/-- A call is stopped at its graph or its caller, and by a wider contract not before that; or it
passes both, under either contract. -/
theorem checkCall_widened (widens : contract.Widens wider function.name) (widened : spec.Widens larger)
    (graph : CallGraph) (caller : Caller) (arguments : Arguments) :
    (∃ violation, function.checkCall contract spec graph caller arguments = .error violation ∧
      violation.checkpoint.rank ≤ Checkpoint.caller.rank ∧
      ∀ other, function.checkCall wider larger graph caller arguments = .error other →
        violation.checkpoint.rank ≤ other.checkpoint.rank) ∨
    function.checkCall wider larger graph caller arguments = function.checkCall contract spec graph caller arguments := by
  cases offender : contract.firstRefusedCall function.name graph with
  | some call =>
    refine .inl ⟨.callNotAllowed function.name call, by rw [checkCall, offender], Nat.le_succ _, ?_⟩
    exact fun other refused => rank_of_checkCall refused
  | none =>
    have permitted := widens.firstRefusedCall_eq_none offender
    rw [checkCall, checkCall, offender, permitted]
    simp only
    by_cases listed : spec.allowedCallers.contains caller.identifier = true
    · have stillListed : larger.allowedCallers.contains caller.identifier = true := by
        rw [Keyed.contains_iff, ← Keyed.mem_keys_iff] at listed ⊢
        exact widened.allowedCallers listed
      right
      rw [if_pos listed, if_pos stillListed, checkArguments_widened widened]
    · left
      refine ⟨_, if_neg listed, Nat.le_refl _, ?_⟩
      intro other refused
      split at refused
      · exact Nat.le_of_lt (rank_of_checkArguments refused)
      · cases refused
        exact Nat.le_refl _

/-- How two checks of one call compare when the second contract is wider. -/
inductive Compares (first second : Except CallError (FunctionSpec × Bound) × Cache) : Prop where
  /-- The first one stops the call at its caller at the latest, the second one not before that. -/
  | stopped {error : CallError} (refused : first.1 = .error error)
      (early : error.checkpoint.rank ≤ Checkpoint.caller.rank)
      (later : ∀ other, second.1 = .error other → error.checkpoint.rank ≤ other.checkpoint.rank)
  | refused {error : CallError} {cache : Cache} (first : first = (.error error, cache))
      (second : second = (.error error, cache))
  | passed {spec larger : FunctionSpec} {bound : Bound} {cache : Cache} (widened : spec.Widens larger)
      (first : first = (.ok (spec, bound), cache)) (second : second = (.ok (larger, bound), cache))

theorem check_compares (widens : contract.Widens wider function.name) (caller : Caller) (arguments : Arguments)
    (cache : Cache) :
    Compares (function.check contract caller arguments cache) (function.check wider caller arguments cache) := by
  cases found : contract.declaredSpec? function.name with
  | none =>
    have refused : (function.check contract caller arguments cache).1 =
        .error (.violation (.functionNotDeclared function.name)) := by
      rw [check, found]
    exact .stopped refused (Checkpoint.declaration_rank_le _) fun other _ => Checkpoint.declaration_rank_le _
  | some spec =>
    obtain ⟨larger, foundLarger, widened⟩ := widens.declaredSpec? found
    rw [check, check, found, foundLarger]
    rcases cache.functionGraph function.source function.name with ⟨error | graph, cache⟩
    · exact .refused rfl rfl
    · simp only
      rcases checkCall_widened widens widened graph caller arguments with ⟨violation, refused, early, later⟩ | same
      · rw [refused]
        refine .stopped rfl early fun other refusedLarger => ?_
        cases checked : function.checkCall wider larger graph caller arguments with
        | ok bound =>
          rw [checked] at refusedLarger
          cases refusedLarger
        | error otherViolation =>
          rw [checked] at refusedLarger
          cases refusedLarger
          exact later _ checked
      · rw [same]
        cases function.checkCall contract spec graph caller arguments with
        | error violation => exact .refused rfl rfl
        | ok bound => exact .passed widened rfl rfl

/-! ### The whole calls -/

section

variable {isolated : Bool} {call widerCall : Bool → Caller → String → Arguments → Memory → Option (Ran Reply)}
  {memory : Memory}

theorem failedCheck?_deliver (error : CallError) :
    (Ending.delivered (deliver contract (.error error))).failedCheck? = some error.checkpoint := by
  rw [Ending.failedCheck?, failure?_deliver, Option.map_some]

theorem failedCheck?_of_refused {error : CallError}
    (checked : (function.check contract caller arguments memory.cache).1 = .error error) :
    (function.callWith contract isolated call caller arguments memory).ending.failedCheck? = some error.checkpoint := by
  rw [(callWith_of_refused checked).1, failedCheck?_deliver]

/-- A call that has passed the checks before its body can only fail at the body or at its result. -/
theorem rank_of_passed (passed : function.check contract caller arguments memory.cache = (.ok (spec, bound), cache))
    {check : Checkpoint}
    (failed : (function.callWith contract isolated call caller arguments memory).ending.failedCheck? = some check) :
    Checkpoint.caller.rank < check.rank := by
  rw [callWith_of_passed passed, Ran.map] at failed
  have executed : function.Executes isolated call { memory with cache } spec bound
      (function.execute spec bound isolated caller call { memory with cache }).ending := (executes_iff _).2 rfl
  generalize (function.execute spec bound isolated caller call { memory with cache }).ending = ending at executed failed
  cases ending with
  | delivered result =>
    cases result with
    | error error =>
      have same := (failedCheck?_deliver error).symm.trans failed
      rcases executed.error_cases with ⟨failure, rfl⟩ | ⟨failure, rfl⟩ | rfl
      all_goals
        cases same
        simp [CallError.checkpoint, Violation.checkpoint, Checkpoint.rank]
    | ok value =>
      simp only [Ending.map, Except.bind, checkResult] at failed
      split at failed
      · cases failed
      · cases (failedCheck?_deliver _).symm.trans failed
        simp [CallError.checkpoint, Violation.checkpoint, Checkpoint.rank]
  | panicked message =>
    cases failed
    simp [Checkpoint.rank]
  | exited =>
    cases failed
    simp [Checkpoint.rank]
  | stalled =>
    cases failed
    simp [Checkpoint.rank]

theorem received_widened (widened : spec.Widens larger) : function.received larger = function.received spec := by
  funext report
  rcases report with _ | (_ | _)
  · rfl
  · rfl
  · rw [received, received, widened.maxRuntimeSeconds]

theorem execute_widened (widened : spec.Widens larger) (indifferent : function.Indifferent call widerCall)
    (bound : Bound) (isolated : Bool) (caller : Caller) (memory : Memory) :
    function.execute larger bound isolated caller widerCall memory =
      function.execute spec bound isolated caller call memory := by
  rw [execute_quieted indifferent]
  simp only [execute, widened.timeout_eq, received_widened widened]

theorem checkResult_widened (widened : spec.Widens larger) : function.checkResult larger = function.checkResult spec := by
  funext value
  rw [checkResult, checkResult, widened.returns]

/-- Either the call is stopped at its caller at the latest, and not before that under the wider
contract, or the two calls are the same run. -/
theorem callWith_widened (widens : contract.Widens wider function.name) (indifferent : function.Indifferent call widerCall)
    (isolated : Bool) (caller : Caller) (arguments : Arguments) (memory : Memory) :
    (∃ check,
      (function.callWith contract isolated call caller arguments memory).ending.failedCheck? = some check ∧
      check.rank ≤ Checkpoint.caller.rank ∧
      ∀ other, (function.callWith wider isolated widerCall caller arguments memory).ending.failedCheck? = some other →
        check.rank ≤ other.rank) ∨
    function.callWith wider isolated widerCall caller arguments memory =
      function.callWith contract isolated call caller arguments memory := by
  cases check_compares widens caller arguments memory.cache with
  | stopped refused early later =>
    refine .inl ⟨_, failedCheck?_of_refused refused, early, fun other failed => ?_⟩
    rcases checked : function.check wider caller arguments memory.cache with ⟨error | ⟨larger, bound⟩, cache⟩
    · have stopped := congrArg Prod.fst checked
      rw [failedCheck?_of_refused stopped] at failed
      cases failed
      exact later _ stopped
    · exact Nat.le_trans early (Nat.le_of_lt (rank_of_passed checked failed))
  | refused first second =>
    right
    rw [callWith, callWith, first, second]
    simp only [widens.deliver_eq]
  | passed widened first second =>
    right
    rw [callWith_of_passed first, callWith_of_passed second, execute_widened widened indifferent]
    simp only [widens.deliver_eq, checkResult_widened widened]

end

/-- A wider contract never stops a call at an earlier check; and a call that the contract does not
stop at its caller or before is the same run under the wider one. -/
theorem widening_preserves (function : GovernedFunction) (contract wider : Contract) (isolated : Bool)
    (call widerCall : Bool → Caller → String → Arguments → Memory → Option (Ran Reply)) (caller : Caller)
    (arguments : Arguments) (memory : Memory) (widens : contract.Widens wider function.name)
    (indifferent : function.Indifferent call widerCall) :
    (∀ later,
      (function.callWith wider isolated widerCall caller arguments memory).ending.failedCheck? = some later →
      ∃ earlier,
        (function.callWith contract isolated call caller arguments memory).ending.failedCheck? = some earlier ∧
        earlier.rank ≤ later.rank) ∧
    ((∀ check,
        (function.callWith contract isolated call caller arguments memory).ending.failedCheck? = some check →
        Checkpoint.caller.rank < check.rank) →
      function.callWith wider isolated widerCall caller arguments memory =
        function.callWith contract isolated call caller arguments memory) := by
  rcases callWith_widened widens indifferent isolated caller arguments memory with ⟨check, failed, early, later⟩ | same
  · refine ⟨fun other failedWider => ⟨check, failed, later other failedWider⟩, fun past => ?_⟩
    exact absurd (past check failed) (Nat.not_lt.2 early)
  · rw [same]
    exact ⟨fun check failed => ⟨check, failed, Nat.le_refl _⟩, fun _ => rfl⟩

section

/-- More than `collectingContract` declares and allows. -/
def openContract : Contract where
  raiseOnViolation := false
  declaredFunctions := ["h", "f"]
  allowedImports := .empty
  globalAllowedCalls := .ofList ["print"]
  specs := .ofList [
    ("f", { collectingSpec .zero with
      allowedCalls := .ofList ["g", "k"], allowedCallers := .ofList ["<module>", "h"] }),
    ("h", .empty)]
  declared_nodup := by simp
  declared_specified := by simp; exact ⟨rfl, rfl⟩

theorem openContract_widens : (collectingContract .zero).Widens openContract collecting.name where
  raiseOnViolation := rfl
  declaredFunctions := by simp [collectingContract, openContract]
  globalAllowedCalls := by simp [collectingContract, Keyed.keys, Keyed.empty]
  specified := by
    intro spec specified
    cases specified
    refine ⟨_, rfl, rfl, rfl, rfl, fun call listed => ?_, fun name listed => ?_⟩
    all_goals
      rw [Names.mem_keys_ofList]
      simp only [collectingSpec, Names.mem_keys_ofList] at listed
      simp [List.mem_singleton.1 listed]

/-- The one caller is allowed by both contracts, the other one by the wider contract alone. -/
theorem widening_of_collecting :
    (collectingContract .zero).Widens openContract collecting.name ∧ collecting.Indifferent noCalls noCalls ∧
    collecting.callWith openContract false noCalls .module ⟨[.integer 1], []⟩ .empty =
      collecting.callWith (collectingContract .zero) false noCalls .module ⟨[.integer 1], []⟩ .empty ∧
    (collecting.callWith (collectingContract .zero) false noCalls (.function "h") ⟨[], []⟩ .empty).ending.failedCheck? =
      some .caller ∧
    ∀ check,
      (collecting.callWith openContract false noCalls (.function "h") ⟨[], []⟩ .empty).ending.failedCheck? = some check →
      Checkpoint.caller.rank ≤ check.rank := by
  have indifferent : collecting.Indifferent noCalls noCalls := fun _ _ _ => rfl
  have passing := widening_preserves collecting _ _ false _ _ .module ⟨[.integer 1], []⟩ .empty openContract_widens indifferent
  have failing := widening_preserves collecting _ _ false _ _ (.function "h") ⟨[], []⟩ .empty openContract_widens indifferent
  have succeeds : (collecting.callWith (collectingContract .zero) false noCalls .module ⟨[.integer 1], []⟩
      .empty).ending.failedCheck? = none := by
    decide +kernel
  have stopped : (collecting.callWith (collectingContract .zero) false noCalls (.function "h") ⟨[], []⟩
      .empty).ending.failedCheck? = some .caller := by
    decide +kernel
  refine ⟨openContract_widens, indifferent, passing.2 ?_, stopped, fun check failed => ?_⟩
  · intro check failed
    rw [succeeds] at failed
    cases failed
  · obtain ⟨earlier, same, before⟩ := failing.1 check failed
    cases stopped.symm.trans same
    exact before

end

end GovernedFunction

end CallPolicy
