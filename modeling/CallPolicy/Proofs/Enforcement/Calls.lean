import CallPolicy.Proofs.Enforcement.Admission

/-! How a guarded call ends.

A call that is refused ends at once and starts nothing. One that is admitted starts its body, and
ends as the body does, unless the value returned is refused after all.
-/

set_option autoImplicit false

namespace CallPolicy

open Json (Value)

theorem FunctionSpec.timeout_eq_none_iff (spec : FunctionSpec) :
    spec.timeout = none ↔ spec.maxRuntimeSeconds.isPositive = false := by
  simp [FunctionSpec.timeout, Duration.ofSeconds?]

theorem FunctionSpec.timeout_of_positive {spec : FunctionSpec} (limited : spec.maxRuntimeSeconds.isPositive = true) :
    spec.timeout = some (Duration.ofPositive spec.maxRuntimeSeconds) := by
  rw [timeout, Duration.ofSeconds?, if_pos limited]

namespace GovernedFunction

section

variable (function : GovernedFunction) (contract : Contract) (isolated : Bool)
  (call : Bool → Caller → String → Arguments → Memory → Option (Ran Reply)) (caller : Caller) (arguments : Arguments)
  (memory : Memory)

/-- How the body of an admitted call ends: in the calling process when its time is not limited,
and in a worker otherwise, which a worker cannot have. -/
inductive Executes (spec : FunctionSpec) (bound : Bound) : Ending (Except CallError Value) → Prop where
  | inProcess {ending : Ending (Except FunctionError Value)} (unlimited : spec.maxRuntimeSeconds.isPositive = false)
      (ran : ((function.body ⟨function.name, bound⟩).run isolated
        (call isolated (.function function.name)) memory).ending = ending) :
      Executes spec bound (ending.map (·.mapError .function))
  | inWorker {limit : Duration} {ending : Ending (Except WorkerError Timed)} (limited : spec.timeout = some limit)
      (outside : isolated = false)
      (ran : (((function.body ⟨function.name, bound⟩).run true
        (call true (.function function.name)) memory).isolate limit memory).ending = ending) :
      Executes spec bound (ending.map (function.received spec))
  | waiting (limited : spec.maxRuntimeSeconds.isPositive = true) (inside : isolated = true) :
      Executes spec bound .stalled

/-- What the caller may see first: a value, or the error of the first step that fails. -/
inductive Ends : Ending Reply → Prop where
  | returned {spec : FunctionSpec} {bound : Bound} {value : Value}
      (admitted : function.Admitted contract caller arguments spec bound)
      (executed : function.Executes isolated call memory spec bound (.delivered (.ok value)))
      (accepted : spec.returns.accepts value = true) : Ends (.delivered (.ok (.ok value)))
  | refused {error : CallError} (refused : function.Refused contract caller arguments error) :
      Ends (.delivered (deliver contract (.error error)))
  | failed {spec : FunctionSpec} {bound : Bound} {error : CallError}
      (admitted : function.Admitted contract caller arguments spec bound)
      (executed : function.Executes isolated call memory spec bound (.delivered (.error error))) :
      Ends (.delivered (deliver contract (.error error)))
  | rejected {spec : FunctionSpec} {bound : Bound} {value : Value}
      (admitted : function.Admitted contract caller arguments spec bound)
      (executed : function.Executes isolated call memory spec bound (.delivered (.ok value)))
      (rejected : spec.returns.accepts value = false) :
      Ends (.delivered (deliver contract
        (.error (.violation (.returnInvalid function.name value.compactText spec.returns.name)))))
  | panicked {spec : FunctionSpec} {bound : Bound} {message : Option String}
      (admitted : function.Admitted contract caller arguments spec bound)
      (executed : function.Executes isolated call memory spec bound (.panicked message)) : Ends (.panicked message)
  | exited {spec : FunctionSpec} {bound : Bound} (admitted : function.Admitted contract caller arguments spec bound)
      (executed : function.Executes isolated call memory spec bound .exited) : Ends .exited
  | stalled {spec : FunctionSpec} {bound : Bound} (admitted : function.Admitted contract caller arguments spec bound)
      (executed : function.Executes isolated call memory spec bound .stalled) : Ends .stalled

end

variable {function : GovernedFunction} {contract : Contract} {isolated : Bool}
  {call : Bool → Caller → String → Arguments → Memory → Option (Ran Reply)} {caller : Caller} {arguments : Arguments}
  {memory : Memory} {spec : FunctionSpec} {bound : Bound}

theorem executes_iff (ending : Ending (Except CallError Value)) :
    function.Executes isolated call memory spec bound ending ↔
      (function.execute spec bound isolated caller call memory).ending = ending := by
  unfold execute
  constructor
  · intro executed
    cases executed with
    | inProcess unlimited ran =>
      rw [(spec.timeout_eq_none_iff).2 unlimited, ← ran]
      rfl
    | inWorker limited outside ran =>
      subst outside
      rw [limited, ← ran]
      rfl
    | waiting limited inside =>
      subst inside
      cases limit : spec.timeout with
      | none => simp [(spec.timeout_eq_none_iff).1 limit] at limited
      | some limit => rfl
  · intro ended
    subst ended
    cases limited : spec.timeout with
    | none => exact .inProcess ((spec.timeout_eq_none_iff).1 limited) rfl
    | some limit =>
      cases isolated with
      | false => exact .inWorker limited rfl rfl
      | true =>
        refine .waiting ?_ rfl
        rw [← Bool.not_eq_false, ← spec.timeout_eq_none_iff, limited]
        simp

theorem head?_execute_starts (start : Start) :
    (function.execute spec bound isolated caller call memory).starts.head? = some start ↔
      (isolated = true → spec.timeout = none) ∧ start = ⟨function.name, caller.identifier, bound⟩ := by
  unfold execute
  cases spec.timeout with
  | none => simp [Ran.after, eq_comm]
  | some limit => cases isolated <;> simp [Ran.after, Ran.stop, eq_comm]

/-! ### The whole call -/

theorem callWith_of_refused {error : CallError}
    (checked : (function.check contract caller arguments memory.cache).1 = .error error) :
    (function.callWith contract isolated call caller arguments memory).ending =
        .delivered (deliver contract (.error error)) ∧
      (function.callWith contract isolated call caller arguments memory).starts = [] := by
  have refused : function.check contract caller arguments memory.cache =
      (.error error, (function.check contract caller arguments memory.cache).2) := Prod.ext checked rfl
  rw [callWith, refused]
  exact ⟨rfl, rfl⟩

theorem callWith_of_passed {cache : Cache}
    (passed : function.check contract caller arguments memory.cache = (.ok (spec, bound), cache)) :
    function.callWith contract isolated call caller arguments memory =
      (function.execute spec bound isolated caller call { memory with cache }).map fun result =>
        deliver contract (result.bind (function.checkResult spec)) := by
  rw [callWith, passed]

theorem callWith_of_admitted (faithful : memory.cache.Faithful function.source function.name)
    (admitted : function.Admitted contract caller arguments spec bound) :
    function.callWith contract isolated call caller arguments memory =
      (function.execute spec bound isolated caller call
        { memory with cache := (memory.cache.functionGraph function.source function.name).2 }).map fun result =>
          deliver contract (result.bind (function.checkResult spec)) :=
  callWith_of_passed (Prod.ext (admitted.check faithful) (check_cache_of_declared admitted.declared))

/-- The value returned is checked once the body has come to its end. -/
theorem ends_of_executes {ending : Ending (Except CallError Value)}
    (admitted : function.Admitted contract caller arguments spec bound)
    (executed : function.Executes isolated call memory spec bound ending) :
    function.Ends contract isolated call caller arguments memory
      (ending.map fun result => deliver contract (result.bind (function.checkResult spec))) := by
  cases ending with
  | delivered result =>
    cases result with
    | error error => exact .failed admitted executed
    | ok value =>
      simp only [Ending.map, Except.bind, checkResult]
      split
      · next accepted => exact .returned admitted executed accepted
      · next rejected => exact .rejected admitted executed (Bool.eq_false_iff.2 rejected)
  | panicked message => exact .panicked admitted executed
  | exited => exact .exited admitted executed
  | stalled => exact .stalled admitted executed

/-- What the memory of a call is once its source has been read. -/
def entered (function : GovernedFunction) (memory : Memory) : Memory :=
  { memory with cache := (memory.cache.functionGraph function.source function.name).2 }

theorem faithful_entered (faithful : memory.cache.Faithful function.source function.name) :
    (function.entered memory).cache.Faithful function.source function.name :=
  faithful.functionGraph

theorem callWith_ending_of_executes {ending : Ending (Except CallError Value)}
    (faithful : memory.cache.Faithful function.source function.name)
    (admitted : function.Admitted contract caller arguments spec bound)
    (executed : function.Executes isolated call (function.entered memory) spec bound ending) :
    (function.callWith contract isolated call caller arguments memory).ending =
      ending.map fun result => deliver contract (result.bind (function.checkResult spec)) := by
  rw [callWith_of_admitted faithful admitted, Ran.map, ← entered, ((executes_iff ending).1 executed)]

theorem ends_iff (faithful : memory.cache.Faithful function.source function.name) (ending : Ending Reply) :
    (function.callWith contract isolated call caller arguments memory).ending = ending ↔
      function.Ends contract isolated call caller arguments (function.entered memory) ending := by
  constructor
  · intro ended
    subst ended
    rcases check_cases contract caller arguments faithful with ⟨error, checked, refused⟩ | ⟨spec, bound, _, admitted⟩
    · rw [(callWith_of_refused checked).1]
      exact .refused refused
    · rw [callWith_of_admitted faithful admitted]
      exact ends_of_executes admitted ((executes_iff _).2 rfl)
  · intro ends
    cases ends with
    | returned admitted executed accepted =>
      rw [callWith_ending_of_executes faithful admitted executed]
      simp [Ending.map, Except.bind, checkResult, accepted, deliver]
    | refused refused => exact (callWith_of_refused (refused.check faithful)).1
    | failed admitted executed => exact callWith_ending_of_executes faithful admitted executed
    | rejected admitted executed rejected =>
      rw [callWith_ending_of_executes faithful admitted executed]
      simp [Ending.map, Except.bind, checkResult, rejected]
    | panicked admitted executed => exact callWith_ending_of_executes faithful admitted executed
    | exited admitted executed => exact callWith_ending_of_executes faithful admitted executed
    | stalled admitted executed => exact callWith_ending_of_executes faithful admitted executed

theorem starts_iff (faithful : memory.cache.Faithful function.source function.name) (start : Start) :
    (function.callWith contract isolated call caller arguments memory).starts.head? = some start ↔
      ∃ spec bound, function.Admitted contract caller arguments spec bound ∧
        (isolated = true → spec.timeout = none) ∧ start = ⟨function.name, caller.identifier, bound⟩ := by
  constructor
  · intro started
    rcases check_cases contract caller arguments faithful with ⟨error, checked, _⟩ | ⟨spec, bound, _, admitted⟩
    · rw [(callWith_of_refused checked).2] at started
      cases started
    · rw [callWith_of_admitted faithful admitted] at started
      exact ⟨spec, bound, admitted, (head?_execute_starts start).1 started⟩
  · rintro ⟨spec, bound, admitted, started⟩
    rw [callWith_of_admitted faithful admitted]
    exact (head?_execute_starts start).2 started

/-! ### Which error it is -/

theorem deliver_error_injective {first second : CallError}
    (same : deliver contract (.error first) = deliver contract (.error second)) : first = second := by
  cases raised : contract.raiseOnViolation <;> cases first <;> cases second <;> simp_all [deliver]

theorem deliver_error_ne_ok (error : CallError) (value : Value) : deliver contract (.error error) ≠ .ok (.ok value) := by
  cases raised : contract.raiseOnViolation <;> cases error <;> simp [deliver, raised]

/-- The errors that a body or its worker can make. -/
theorem Executes.error_cases {error : CallError}
    (executed : function.Executes isolated call memory spec bound (.delivered (.error error))) :
    (∃ failure, error = .function failure) ∨ (∃ failure, error = .worker failure) ∨
      error = .violation (.timeoutExceeded function.name spec.maxRuntimeSeconds) := by
  generalize final : Ending.delivered (Except.error error) = ending at executed
  cases executed with
  | @inProcess ending unlimited ran =>
    rcases ending with (⟨failure | _⟩ | _ | _ | _) <;> simp [Ending.map, Except.mapError] at final
    exact .inl ⟨failure, final⟩
  | @inWorker limit ending limited outside ran =>
    rcases ending with (⟨failure | ⟨⟨failure | _⟩ | _⟩⟩ | _ | _ | _) <;>
      simp [Ending.map, received, Except.mapError] at final
    · exact .inr (.inl ⟨failure, final⟩)
    · exact .inl ⟨failure, final⟩
    · exact .inr (.inr final)
  | waiting => cases final

theorem Ends.names {violation : Violation}
    (ends : function.Ends contract isolated call caller arguments memory
      (.delivered (deliver contract (.error (.violation violation))))) : violation.function = function.name := by
  generalize final : Ending.delivered (deliver contract (.error (.violation violation))) = ending at ends
  cases ends with
  | returned => exact absurd (Ending.delivered.inj final) (deliver_error_ne_ok _ _)
  | refused refused =>
    cases deliver_error_injective (Ending.delivered.inj final)
    exact refused.names
  | failed admitted executed =>
    cases deliver_error_injective (Ending.delivered.inj final)
    rcases executed.error_cases with ⟨failure, same⟩ | ⟨failure, same⟩ | same
    · cases same
    · cases same
    · cases same
      rfl
  | rejected =>
    cases deliver_error_injective (Ending.delivered.inj final)
    rfl
  | panicked => cases final
  | exited => cases final
  | stalled => cases final

/-- The error that a reply holds, whether it was raised or wrapped. -/
def failure? : Reply → Option CallError
  | .ok (.ok _) => none
  | .ok (.violated violation) => some (.violation violation)
  | .error error => some error

theorem failure?_deliver (error : CallError) : failure? (deliver contract (.error error)) = some error := by
  cases raised : contract.raiseOnViolation <;> cases error <;> simp [failure?, deliver, raised]

/-- A run ends in an error. -/
def EndsIn (ran : Ran Reply) (error : CallError) : Prop :=
  ∃ reply, ran.ending = .delivered reply ∧ failure? reply = some error

/-- An error other than those of a body and its result comes from the checks before. -/
theorem endsIn_iff_refused {error : CallError} (faithful : memory.cache.Faithful function.source function.name)
    (noFailure : ∀ failure, error ≠ .function failure) (noWorker : ∀ failure, error ≠ .worker failure)
    (noTimeout : ∀ limit, error ≠ .violation (.timeoutExceeded function.name limit))
    (noResult : ∀ value expected, error ≠ .violation (.returnInvalid function.name value expected)) :
    EndsIn (function.callWith contract isolated call caller arguments memory) error ↔
      function.Refused contract caller arguments error := by
  constructor
  · rintro ⟨reply, ended, held⟩
    have ends := (ends_iff faithful _).1 ended
    generalize final : Ending.delivered reply = ending at ends
    cases ends with
    | returned =>
      cases final
      cases held
    | refused refused =>
      cases final
      rw [failure?_deliver] at held
      cases held
      exact refused
    | failed admitted executed =>
      cases final
      rw [failure?_deliver] at held
      cases held
      rcases executed.error_cases with ⟨failure, same⟩ | ⟨failure, same⟩ | same
      · exact absurd same (noFailure failure)
      · exact absurd same (noWorker failure)
      · exact absurd same (noTimeout _)
    | rejected =>
      cases final
      rw [failure?_deliver] at held
      cases held
      exact absurd rfl (noResult _ _)
    | panicked => cases final
    | exited => cases final
    | stalled => cases final
  · intro refused
    exact ⟨_, (ends_iff faithful _).2 (.refused refused), failure?_deliver error⟩

theorem returns_iff (faithful : memory.cache.Faithful function.source function.name) (value : Value) :
    (function.callWith contract isolated call caller arguments memory).ending = .delivered (.ok (.ok value)) ↔
      ∃ spec bound, function.Admitted contract caller arguments spec bound ∧
        function.Executes isolated call (function.entered memory) spec bound (.delivered (.ok value)) ∧
        spec.returns.accepts value = true := by
  rw [ends_iff faithful]
  constructor
  · intro ends
    generalize final : Ending.delivered (Except.ok (Outcome.ok value)) = ending at ends
    cases ends with
    | returned admitted executed accepted =>
      cases final
      exact ⟨_, _, admitted, executed, accepted⟩
    | refused => exact absurd (Ending.delivered.inj final).symm (deliver_error_ne_ok _ _)
    | failed => exact absurd (Ending.delivered.inj final).symm (deliver_error_ne_ok _ _)
    | rejected => exact absurd (Ending.delivered.inj final).symm (deliver_error_ne_ok _ _)
    | panicked => cases final
    | exited => cases final
    | stalled => cases final
  · rintro ⟨spec, bound, admitted, executed, accepted⟩
    exact .returned admitted executed accepted

/-- A guarded call starts its body exactly when it is admitted, outside of a worker at least; it
gives a value exactly when the body delivers one that the contract accepts; and in every case it
ends as the first step says that fails. -/
theorem guarded_call_exact (function : GovernedFunction) (contract : Contract) (isolated : Bool)
    (call : Bool → Caller → String → Arguments → Memory → Option (Ran Reply)) (caller : Caller) (arguments : Arguments)
    (memory : Memory) (faithful : memory.cache.Faithful function.source function.name) :
    (∀ start, (function.callWith contract isolated call caller arguments memory).starts.head? = some start ↔
      ∃ spec bound, function.Admitted contract caller arguments spec bound ∧
        (isolated = true → spec.timeout = none) ∧ start = ⟨function.name, caller.identifier, bound⟩) ∧
    (∀ value, (function.callWith contract isolated call caller arguments memory).ending = .delivered (.ok (.ok value)) ↔
      ∃ spec bound, function.Admitted contract caller arguments spec bound ∧
        function.Executes isolated call (function.entered memory) spec bound (.delivered (.ok value)) ∧
        spec.returns.accepts value = true) ∧
    (∀ ending, (function.callWith contract isolated call caller arguments memory).ending = ending ↔
      function.Ends contract isolated call caller arguments (function.entered memory) ending) ∧
    ∀ violation, (function.callWith contract isolated call caller arguments memory).ending =
      .delivered (deliver contract (.error (.violation violation))) → violation.function = function.name := by
  refine ⟨starts_iff faithful, returns_iff faithful, ends_iff faithful, ?_⟩
  intro violation ended
  exact ((ends_iff faithful _).1 ended).names

section

/-- A list of what it is given. -/
def collecting : GovernedFunction where
  name := "f"
  parameters := [⟨"x", none⟩, ⟨"y", some (.integer 2)⟩]
  source := ⟨.python, "def f(x, y=2):\n    return g(x, y)\n"⟩
  body invocation := .returned (.list (invocation.bound.map (·.2)))

variable (budget : Binary64)

def collectingSpec : FunctionSpec where
  parameters := .ofList [("x", .integer), ("y", .number)]
  returns := .list
  allowedCalls := .ofList ["g"]
  allowedCallers := .ofList ["<module>"]
  maxRuntimeSeconds := budget

def collectingContract : Contract where
  raiseOnViolation := false
  declaredFunctions := ["f"]
  allowedImports := .empty
  globalAllowedCalls := .empty
  specs := .ofList [("f", collectingSpec budget)]
  declared_nodup := by simp
  declared_specified := by simp; rfl

theorem collecting_admitted :
    collecting.Admitted (collectingContract budget) .module ⟨[.integer 1], []⟩ (collectingSpec budget)
      [("x", .integer 1), ("y", .integer 2)] where
  declared := by simp [collecting, collectingContract]
  specified := rfl
  calls_allowed := by
    refine ⟨⟨[⟨"g", 2⟩], []⟩, extractFunction_eq_ok (by decide +kernel), ?_⟩
    simp only [CallGraph.callNames, List.map_cons, List.map_nil, List.mem_singleton, forall_eq]
    exact .inr ((Keyed.mem_keys_iff _ _).2 ⟨(), rfl⟩)
  caller_allowed := (Keyed.mem_keys_iff _ _).2 ⟨(), rfl⟩
  binds := rfl
  parameters_declared := by
    simp only [List.forall_mem_cons, Keyed.mem_keys_iff]
    exact ⟨⟨_, rfl⟩, ⟨_, rfl⟩, by simp⟩
  values_accepted := by
    simp only [List.forall_mem_cons, FunctionSpec.Accepts]
    exact ⟨fun _ same => by cases same; rfl, fun _ same => by cases same; rfl, by simp⟩

/-- Answers to the calls of a body that makes none. -/
def noCalls : Bool → Caller → String → Arguments → Memory → Option (Ran Reply) :=
  fun _ _ _ _ _ => none

theorem collecting_executes (memory : Memory) :
    collecting.Executes false noCalls memory (collectingSpec .zero) [("x", .integer 1), ("y", .integer 2)]
      (.delivered (.ok (.list [.integer 1, .integer 2]))) := by
  have unlimited : (collectingSpec .zero).maxRuntimeSeconds.isPositive = false := rfl
  have ran : ((collecting.body ⟨collecting.name, [("x", .integer 1), ("y", .integer 2)]⟩).run false
      (noCalls false (.function collecting.name)) memory).ending = .delivered (.ok (.list [.integer 1, .integer 2])) := by
    rfl
  exact .inProcess unlimited ran

theorem faithful_collecting : (collecting.entered .empty).cache.Faithful collecting.source collecting.name :=
  faithful_entered (Cache.faithful_empty _ _)

theorem guarded_call_of_collecting :
    (collecting.entered .empty).cache.Faithful collecting.source collecting.name ∧
    (collecting.callWith (collectingContract .zero) false noCalls .module ⟨[.integer 1], []⟩
      (collecting.entered .empty)).ending = .delivered (.ok (.ok (.list [.integer 1, .integer 2]))) ∧
    (collecting.callWith (collectingContract .zero) false noCalls (.function "h") ⟨[], []⟩
      (collecting.entered .empty)).ending = .delivered (.ok (.violated (.callerNotAllowed "f" "h"))) := by
  have passing := guarded_call_exact collecting (collectingContract .zero) false noCalls .module ⟨[.integer 1], []⟩
    (collecting.entered .empty) faithful_collecting
  have failing := guarded_call_exact collecting (collectingContract .zero) false noCalls (.function "h") ⟨[], []⟩
    (collecting.entered .empty) faithful_collecting
  have accepted : (collectingSpec .zero).returns.accepts (.list [.integer 1, .integer 2]) = true := rfl
  -- The second call lacks an argument, too, but its caller is checked first.
  have unlisted : (Caller.function "h").identifier ∉ (collectingSpec .zero).allowedCallers.keys := by
    rw [Keyed.mem_keys_iff]
    rintro ⟨_, held⟩
    cases held
  refine ⟨faithful_collecting,
    (passing.2.1 _).2 ⟨_, _, collecting_admitted .zero, collecting_executes _, accepted⟩, ?_⟩
  exact (failing.2.2.1 _).2 (.refused (.caller (collecting_admitted .zero).toCallsAllowed unlisted))

/-- A call with a time limit that is made in a worker passes all checks, and never starts its body. -/
theorem timed_call_in_worker_stalls :
    (∃ spec bound, collecting.Admitted (collectingContract (.ofNat 8)) .module ⟨[.integer 1], []⟩ spec bound) ∧
    (collecting.callWith (collectingContract (.ofNat 8)) true noCalls .module ⟨[.integer 1], []⟩
      (collecting.entered .empty)).starts.head? = none ∧
    (collecting.callWith (collectingContract (.ofNat 8)) true noCalls .module ⟨[.integer 1], []⟩
      (collecting.entered .empty)).ending = .stalled := by
  have admitted := collecting_admitted (.ofNat 8)
  have limited : (collectingSpec (.ofNat 8)).maxRuntimeSeconds.isPositive = true := by decide +kernel
  refine ⟨⟨_, _, admitted⟩, ?_, (ends_iff faithful_collecting _).2 (.stalled admitted (.waiting limited rfl))⟩
  -- A start would need a specification without a limit, and there is only the one.
  rw [Option.eq_none_iff_forall_ne_some]
  intro start started
  obtain ⟨spec, _, other, unlimited, _⟩ := (starts_iff faithful_collecting start).1 started
  have same : spec = collectingSpec (.ofNat 8) := Option.some.inj (other.specified.symm.trans admitted.specified)
  rw [same, FunctionSpec.timeout_eq_none_iff, limited] at unlimited
  cases unlimited rfl

end

end GovernedFunction

end CallPolicy
