import CallPolicy.Enforcement.Guard
import CallPolicy.Proofs.CallGraph.Memoization

/-! What a guarded call checks, and in which order.

`Declared` up to `Admitted` say what a call has passed after each of its checks, and `Refused`
says which one stops it, and with which error. The checks decide between the two.
-/

set_option autoImplicit false

namespace CallPolicy

open Json (Value)

namespace Contract

/-- A call that is allowed to all functions, or to the one that is specified. -/
def Allows (contract : Contract) (spec : FunctionSpec) (call : String) : Prop :=
  call ∈ contract.globalAllowedCalls.keys ∨ call ∈ spec.allowedCalls.keys

theorem isCallAllowed_iff {contract : Contract} {function : String} {spec : FunctionSpec}
    (specified : contract.spec? function = some spec) (call : String) :
    contract.isCallAllowed function call = true ↔ contract.Allows spec call := by
  simp only [isCallAllowed, Allows, specified, Option.any_some, Bool.or_eq_true, Keyed.contains_iff, Keyed.mem_keys_iff]

theorem firstRefusedCall_eq_some_iff {contract : Contract} {function : String} {spec : FunctionSpec}
    (specified : contract.spec? function = some spec) (graph : CallGraph) (call : String) :
    contract.firstRefusedCall function graph = some call ↔
      ∃ earlier later, graph.callNames = earlier ++ call :: later ∧
        (∀ other ∈ earlier, contract.Allows spec other) ∧ ¬ contract.Allows spec call := by
  unfold firstRefusedCall
  rw [List.find?_eq_some_iff_append]
  simp only [Bool.not_eq_true', Bool.not_not, ← Bool.not_eq_true, isCallAllowed_iff specified]
  constructor
  · rintro ⟨refused, earlier, later, position, before⟩
    exact ⟨earlier, later, position, before, refused⟩
  · rintro ⟨earlier, later, position, before, refused⟩
    exact ⟨refused, earlier, later, position, before⟩

theorem firstRefusedCall_eq_none_iff {contract : Contract} {function : String} {spec : FunctionSpec}
    (specified : contract.spec? function = some spec) (graph : CallGraph) :
    contract.firstRefusedCall function graph = none ↔ ∀ call ∈ graph.callNames, contract.Allows spec call := by
  simp [firstRefusedCall, List.find?_eq_none, isCallAllowed_iff specified]

theorem mem_declared_iff (contract : Contract) (function : String) :
    contract.isDeclared function = true ↔ function ∈ contract.declaredFunctions := by
  simp [isDeclared]

/-- A declared function has a specification: there is no contract without it. -/
theorem specified_of_declared {contract : Contract} {function : String}
    (declared : function ∈ contract.declaredFunctions) : ∃ spec, contract.specs.get? function = some spec :=
  (Keyed.contains_iff _ _).1 (contract.declared_specified function declared)

theorem declaredSpec?_eq_some_iff (contract : Contract) (function : String) (spec : FunctionSpec) :
    contract.declaredSpec? function = some spec ↔
      function ∈ contract.declaredFunctions ∧ contract.specs.get? function = some spec := by
  unfold declaredSpec?
  split
  · next declared => exact (and_iff_right ((contract.mem_declared_iff function).1 declared)).symm
  · next undeclared =>
    constructor
    · intro found
      cases found
    · rintro ⟨declared, _⟩
      exact absurd ((contract.mem_declared_iff function).2 declared) undeclared

theorem declaredSpec?_of_undeclared {contract : Contract} {function : String}
    (undeclared : function ∉ contract.declaredFunctions) : contract.declaredSpec? function = none := by
  cases found : contract.declaredSpec? function with
  | none => rfl
  | some spec => exact absurd ((declaredSpec?_eq_some_iff _ _ _).1 found).1 undeclared

end Contract

namespace FunctionSpec

/-- A bound value that the predicate of its parameter accepts. -/
def Accepts (spec : FunctionSpec) (entry : String × Value) : Prop :=
  ∀ predicate, spec.parameters.get? entry.1 = some predicate → predicate.accepts entry.2 = true

theorem firstUndeclared_eq_some_iff (spec : FunctionSpec) (bound : Bound) (parameter : String) :
    spec.firstUndeclared bound = some parameter ↔
      ∃ earlier value later, bound = earlier ++ (parameter, value) :: later ∧
        (∀ entry ∈ earlier, entry.1 ∈ spec.parameters.keys) ∧ parameter ∉ spec.parameters.keys := by
  unfold firstUndeclared
  simp only [Option.map_eq_some_iff, List.find?_eq_some_iff_append, Bool.not_eq_true', Bool.not_not,
    ← Bool.not_eq_true, Keyed.contains_iff, ← Keyed.mem_keys_iff]
  constructor
  · rintro ⟨⟨name, value⟩, ⟨undeclared, earlier, later, position, before⟩, same⟩
    cases same
    exact ⟨earlier, value, later, position, before, undeclared⟩
  · rintro ⟨earlier, value, later, position, before, undeclared⟩
    exact ⟨(parameter, value), ⟨undeclared, earlier, later, position, before⟩, rfl⟩

theorem firstUndeclared_eq_none_iff (spec : FunctionSpec) (bound : Bound) :
    spec.firstUndeclared bound = none ↔ ∀ entry ∈ bound, entry.1 ∈ spec.parameters.keys := by
  simp [firstUndeclared, List.find?_eq_none, Keyed.contains_iff, Keyed.mem_keys_iff]

theorem firstInvalid_eq_none_iff (spec : FunctionSpec) (bound : Bound) :
    spec.firstInvalid bound = none ↔ ∀ entry ∈ bound, spec.Accepts entry := by
  induction bound with
  | nil => simp [firstInvalid]
  | cons entry rest ih =>
    obtain ⟨parameter, value⟩ := entry
    rw [List.forall_mem_cons, ← ih]
    simp only [firstInvalid, Accepts]
    cases found : spec.parameters.get? parameter with
    | none => simp
    | some predicate => cases accepted : predicate.accepts value <;> simp [accepted]

theorem firstInvalid_append {spec : FunctionSpec} {earlier : Bound} (later : Bound)
    (before : ∀ entry ∈ earlier, spec.Accepts entry) : spec.firstInvalid (earlier ++ later) = spec.firstInvalid later := by
  induction earlier with
  | nil => rfl
  | cons entry rest ih =>
    obtain ⟨parameter, value⟩ := entry
    obtain ⟨accepted, before⟩ := List.forall_mem_cons.1 before
    simp only [List.cons_append, firstInvalid]
    cases found : spec.parameters.get? parameter with
    | none => exact ih before
    | some predicate =>
      simp only [accepted predicate found, if_true]
      exact ih before

theorem firstInvalid_eq_some_iff (spec : FunctionSpec) (bound : Bound) (parameter : String) (predicate : Predicate) :
    spec.firstInvalid bound = some (parameter, predicate) ↔
      ∃ earlier value later, bound = earlier ++ (parameter, value) :: later ∧
        (∀ entry ∈ earlier, spec.Accepts entry) ∧
        spec.parameters.get? parameter = some predicate ∧ predicate.accepts value = false := by
  constructor
  · intro found
    induction bound with
    | nil => cases found
    | cons entry rest ih =>
      obtain ⟨name, value⟩ := entry
      -- The head is passed over unless its own predicate refuses it.
      have skip (accepted : spec.Accepts (name, value)) (found : spec.firstInvalid rest = some (parameter, predicate)) :
          ∃ earlier other later, (name, value) :: rest = earlier ++ (parameter, other) :: later ∧
            (∀ entry ∈ earlier, spec.Accepts entry) ∧
            spec.parameters.get? parameter = some predicate ∧ predicate.accepts other = false := by
        obtain ⟨earlier, other, later, position, before, refused⟩ := ih found
        exact ⟨(name, value) :: earlier, other, later, congrArg _ position,
          List.forall_mem_cons.2 ⟨accepted, before⟩, refused⟩
      simp only [firstInvalid] at found
      cases specified : spec.parameters.get? name with
      | none =>
        rw [specified] at found
        exact skip (fun other same => by simp [specified] at same) found
      | some other =>
        simp only [specified] at found
        cases accepted : other.accepts value with
        | true =>
          simp only [accepted, if_true] at found
          exact skip (fun another same => by rw [specified] at same; cases same; exact accepted) found
        | false =>
          simp only [accepted, Bool.false_eq_true, if_false, Option.some.injEq, Prod.mk.injEq] at found
          obtain ⟨sameName, samePredicate⟩ := found
          subst sameName samePredicate
          exact ⟨[], value, rest, rfl, by simp, specified, accepted⟩
  · rintro ⟨earlier, value, later, position, before, specified, refused⟩
    subst position
    rw [firstInvalid_append _ before]
    simp [firstInvalid, specified, refused]

end FunctionSpec

namespace GovernedFunction

section

variable (function : GovernedFunction) (contract : Contract) (caller : Caller) (arguments : Arguments)

/-! ### What a call has passed -/

structure Declared (spec : FunctionSpec) : Prop where
  declared : function.name ∈ contract.declaredFunctions
  specified : contract.specs.get? function.name = some spec

structure CallsAllowed (spec : FunctionSpec) : Prop extends Declared function contract spec where
  calls_allowed : ∃ graph, extractFunction function.source function.name = .ok graph ∧
    ∀ call ∈ graph.callNames, contract.Allows spec call

structure CallerAllowed (spec : FunctionSpec) : Prop extends CallsAllowed function contract spec where
  caller_allowed : caller.identifier ∈ spec.allowedCallers.keys

structure ArgumentsBound (spec : FunctionSpec) (bound : Bound) : Prop
    extends CallerAllowed function contract caller spec where
  binds : bind function.parameters arguments = .ok bound

structure ParametersDeclared (spec : FunctionSpec) (bound : Bound) : Prop
    extends ArgumentsBound function contract caller arguments spec bound where
  parameters_declared : ∀ entry ∈ bound, entry.1 ∈ spec.parameters.keys

/-- A call that has passed all checks before the body. -/
structure Admitted (spec : FunctionSpec) (bound : Bound) : Prop
    extends ParametersDeclared function contract caller arguments spec bound where
  values_accepted : ∀ entry ∈ bound, spec.Accepts entry

/-- The first check that a call fails, and the error that it makes of it. -/
inductive Refused : CallError → Prop where
  | undeclared (absent : function.name ∉ contract.declaredFunctions) :
      Refused (.violation (.functionNotDeclared function.name))
  | unreadable {spec : FunctionSpec} {error : ExtractionError} (passed : function.Declared contract spec)
      (failed : extractFunction function.source function.name = .error error) : Refused (.source error)
  | call {spec : FunctionSpec} {graph : CallGraph} {earlier later : List String} {call : String}
      (passed : function.Declared contract spec)
      (extracted : extractFunction function.source function.name = .ok graph)
      (position : graph.callNames = earlier ++ call :: later)
      (before : ∀ other ∈ earlier, contract.Allows spec other) (refused : ¬ contract.Allows spec call) :
      Refused (.violation (.callNotAllowed function.name call))
  | caller {spec : FunctionSpec} (passed : function.CallsAllowed contract spec)
      (refused : caller.identifier ∉ spec.allowedCallers.keys) :
      Refused (.violation (.callerNotAllowed function.name caller.identifier))
  | unbound {spec : FunctionSpec} {error : BindingError} (passed : function.CallerAllowed contract caller spec)
      (failed : bind function.parameters arguments = .error error) :
      Refused (.violation (.unboundParameters function.name error.message))
  | parameter {spec : FunctionSpec} {bound earlier later : Bound} {parameter : String} {value : Value}
      (passed : function.ArgumentsBound contract caller arguments spec bound)
      (position : bound = earlier ++ (parameter, value) :: later)
      (before : ∀ entry ∈ earlier, entry.1 ∈ spec.parameters.keys) (refused : parameter ∉ spec.parameters.keys) :
      Refused (.violation (.parameterNotDeclared function.name parameter))
  | value {spec : FunctionSpec} {bound earlier later : Bound} {parameter : String} {value : Value}
      {predicate : Predicate} (passed : function.ParametersDeclared contract caller arguments spec bound)
      (position : bound = earlier ++ (parameter, value) :: later) (before : ∀ entry ∈ earlier, spec.Accepts entry)
      (specified : spec.parameters.get? parameter = some predicate) (refused : predicate.accepts value = false) :
      Refused (.violation (.parameterInvalid function.name parameter predicate.name))

end

variable {function : GovernedFunction} {contract : Contract} {caller : Caller} {arguments : Arguments} {cache : Cache}

theorem Refused.names {violation : Violation} (refused : function.Refused contract caller arguments (.violation violation)) :
    violation.function = function.name := by
  cases refused <;> rfl

/-! ### The checks decide -/

theorem checkArguments_cases {spec : FunctionSpec} (passed : function.CallerAllowed contract caller spec) :
    (∃ violation, function.checkArguments spec arguments = .error violation ∧
      function.Refused contract caller arguments (.violation violation)) ∨
    ∃ bound, function.checkArguments spec arguments = .ok bound ∧
      function.Admitted contract caller arguments spec bound := by
  unfold checkArguments
  cases binds : bind function.parameters arguments with
  | error error => exact .inl ⟨_, rfl, .unbound passed binds⟩
  | ok bound =>
    have passed : function.ArgumentsBound contract caller arguments spec bound := { passed with binds := binds }
    cases undeclared : spec.firstUndeclared bound with
    | some parameter =>
      obtain ⟨earlier, value, later, position, before, refused⟩ :=
        (spec.firstUndeclared_eq_some_iff bound parameter).1 undeclared
      exact .inl ⟨_, by simp only [undeclared], .parameter passed position before refused⟩
    | none =>
      have passed : function.ParametersDeclared contract caller arguments spec bound :=
        { passed with parameters_declared := (spec.firstUndeclared_eq_none_iff bound).1 undeclared }
      cases invalid : spec.firstInvalid bound with
      | some entry =>
        obtain ⟨parameter, predicate⟩ := entry
        obtain ⟨earlier, value, later, position, before, specified, refused⟩ :=
          (spec.firstInvalid_eq_some_iff bound parameter predicate).1 invalid
        exact .inl ⟨_, by simp only [undeclared, invalid], .value passed position before specified refused⟩
      | none =>
        refine .inr ⟨bound, by simp only [undeclared, invalid], ?_⟩
        exact { passed with values_accepted := (spec.firstInvalid_eq_none_iff bound).1 invalid }

theorem checkCall_cases {spec : FunctionSpec} {graph : CallGraph} (caller : Caller) (arguments : Arguments)
    (passed : function.Declared contract spec)
    (extracted : extractFunction function.source function.name = .ok graph) :
    (∃ violation, function.checkCall contract spec graph caller arguments = .error violation ∧
      function.Refused contract caller arguments (.violation violation)) ∨
    ∃ bound, function.checkCall contract spec graph caller arguments = .ok bound ∧
      function.Admitted contract caller arguments spec bound := by
  unfold checkCall
  cases offender : contract.firstRefusedCall function.name graph with
  | some call =>
    obtain ⟨earlier, later, position, before, refused⟩ :=
      (Contract.firstRefusedCall_eq_some_iff passed.specified graph call).1 offender
    exact .inl ⟨_, rfl, .call passed extracted position before refused⟩
  | none =>
    have allowed := (Contract.firstRefusedCall_eq_none_iff passed.specified graph).1 offender
    have passed : function.CallsAllowed contract spec := { passed with calls_allowed := ⟨graph, extracted, allowed⟩ }
    simp only
    split
    · next allowed =>
      have member := (Keyed.mem_keys_iff _ _).2 ((Keyed.contains_iff _ _).1 allowed)
      exact checkArguments_cases { passed with caller_allowed := member }
    · next refused =>
      rw [Keyed.contains_iff, ← Keyed.mem_keys_iff] at refused
      exact .inl ⟨_, rfl, .caller passed refused⟩

theorem check_of_declared {spec : FunctionSpec} (passed : function.Declared contract spec) :
    function.check contract caller arguments cache =
      ((cache.functionGraph function.source function.name).1.mapError .source |>.bind fun graph =>
        ((function.checkCall contract spec graph caller arguments).mapError .violation).map (spec, ·),
      (cache.functionGraph function.source function.name).2) := by
  unfold check
  rw [(Contract.declaredSpec?_eq_some_iff _ _ _).2 ⟨passed.declared, passed.specified⟩]
  obtain ⟨answer, cache⟩ := cache.functionGraph function.source function.name
  cases answer with
  | error error => rfl
  | ok graph =>
    cases checked : function.checkCall contract spec graph caller arguments <;>
      simp [checked, Except.mapError, Except.bind, Except.map]

/-- A call is refused or admitted, and the checks say which. -/
theorem check_cases (contract : Contract) (caller : Caller) (arguments : Arguments)
    (faithful : cache.Faithful function.source function.name) :
    (∃ error, (function.check contract caller arguments cache).1 = .error error ∧
      function.Refused contract caller arguments error) ∨
    ∃ spec bound, (function.check contract caller arguments cache).1 = .ok (spec, bound) ∧
      function.Admitted contract caller arguments spec bound := by
  -- A specification alone does not count: it may be left over from an earlier declaration.
  by_cases declared : function.name ∈ contract.declaredFunctions
  · obtain ⟨spec, specified⟩ := Contract.specified_of_declared declared
    have passed : function.Declared contract spec := ⟨declared, specified⟩
    rw [check_of_declared passed, Cache.functionGraph_answer faithful]
    cases answered : extractFunction function.source function.name with
    | error error => exact .inl ⟨_, rfl, .unreadable passed answered⟩
    | ok graph =>
      rcases checkCall_cases caller arguments passed answered with
        ⟨violation, checked, refused⟩ | ⟨bound, checked, admitted⟩
      · exact .inl ⟨_, by rw [Except.mapError, Except.bind, checked]; rfl, refused⟩
      · exact .inr ⟨spec, bound, by rw [Except.mapError, Except.bind, checked]; rfl, admitted⟩
  · refine .inl ⟨_, ?_, .undeclared declared⟩
    simp only [check, Contract.declaredSpec?_of_undeclared declared]

theorem check_of_graph {spec : FunctionSpec} {graph : CallGraph}
    (faithful : cache.Faithful function.source function.name) (passed : function.Declared contract spec)
    (extracted : extractFunction function.source function.name = .ok graph) :
    (function.check contract caller arguments cache).1 =
      ((function.checkCall contract spec graph caller arguments).mapError .violation).map (spec, ·) := by
  rw [check_of_declared passed, Cache.functionGraph_answer faithful, extracted]
  rfl

theorem check_of_calls_allowed {spec : FunctionSpec} (faithful : cache.Faithful function.source function.name)
    (passed : function.CallsAllowed contract spec) :
    (function.check contract caller arguments cache).1 =
      ((if spec.allowedCallers.contains caller.identifier then function.checkArguments spec arguments
        else .error (.callerNotAllowed function.name caller.identifier)).mapError .violation).map (spec, ·) := by
  obtain ⟨graph, extracted, allowed⟩ := passed.calls_allowed
  rw [check_of_graph faithful passed.toDeclared extracted, checkCall,
    (Contract.firstRefusedCall_eq_none_iff passed.specified graph).2 allowed]

theorem check_of_caller_allowed {spec : FunctionSpec} (faithful : cache.Faithful function.source function.name)
    (passed : function.CallerAllowed contract caller spec) :
    (function.check contract caller arguments cache).1 =
      ((function.checkArguments spec arguments).mapError .violation).map (spec, ·) := by
  have allowed := (Keyed.contains_iff _ _).2 ((Keyed.mem_keys_iff _ _).1 passed.caller_allowed)
  rw [check_of_calls_allowed faithful passed.toCallsAllowed, if_pos allowed]

theorem Refused.check {error : CallError} (faithful : cache.Faithful function.source function.name)
    (refused : function.Refused contract caller arguments error) :
    (function.check contract caller arguments cache).1 = .error error := by
  cases refused with
  | undeclared absent =>
    simp only [GovernedFunction.check, Contract.declaredSpec?_of_undeclared absent]
  | unreadable passed failed =>
    rw [check_of_declared passed, Cache.functionGraph_answer faithful, failed]
    rfl
  | @call spec graph earlier later call passed extracted position before refused =>
    have offender := (Contract.firstRefusedCall_eq_some_iff passed.specified graph call).2
      ⟨earlier, later, position, before, refused⟩
    rw [check_of_graph faithful passed extracted, checkCall, offender]
    rfl
  | caller passed refused =>
    rw [Keyed.mem_keys_iff, ← Keyed.contains_iff] at refused
    rw [check_of_calls_allowed faithful passed, if_neg refused]
    rfl
  | unbound passed failed =>
    rw [check_of_caller_allowed faithful passed, checkArguments, failed]
    rfl
  | @parameter spec bound earlier later parameter value passed position before refused =>
    have undeclared := (spec.firstUndeclared_eq_some_iff bound parameter).2
      ⟨earlier, value, later, position, before, refused⟩
    simp only [check_of_caller_allowed faithful passed.toCallerAllowed, checkArguments, passed.binds, undeclared]
    rfl
  | @value spec bound earlier later parameter value predicate passed position before specified refused =>
    have declared := (spec.firstUndeclared_eq_none_iff bound).2 passed.parameters_declared
    have invalid := (spec.firstInvalid_eq_some_iff bound parameter predicate).2
      ⟨earlier, value, later, position, before, specified, refused⟩
    simp only [check_of_caller_allowed faithful passed.toCallerAllowed, checkArguments, passed.binds, declared, invalid]
    rfl

theorem Admitted.check {spec : FunctionSpec} {bound : Bound} (faithful : cache.Faithful function.source function.name)
    (admitted : function.Admitted contract caller arguments spec bound) :
    (function.check contract caller arguments cache).1 = .ok (spec, bound) := by
  have declared := (spec.firstUndeclared_eq_none_iff bound).2 admitted.parameters_declared
  have valid := (spec.firstInvalid_eq_none_iff bound).2 admitted.values_accepted
  simp only [check_of_caller_allowed faithful admitted.toCallerAllowed, checkArguments, admitted.binds, declared, valid]
  rfl

theorem specified_of_check {spec : FunctionSpec} {bound : Bound}
    (passed : (function.check contract caller arguments cache).1 = .ok (spec, bound)) :
    contract.specs.get? function.name = some spec := by
  unfold check at passed
  split at passed
  · cases passed
  · next own found =>
    have specified := ((Contract.declaredSpec?_eq_some_iff _ _ _).1 found).2
    split at passed
    · cases passed
    · split at passed
      · cases passed
      · cases passed
        exact specified

theorem check_cache_of_declared (declared : function.name ∈ contract.declaredFunctions) :
    (function.check contract caller arguments cache).2 = (cache.functionGraph function.source function.name).2 := by
  obtain ⟨spec, specified⟩ := Contract.specified_of_declared declared
  rw [check_of_declared ⟨declared, specified⟩]

end GovernedFunction

end CallPolicy
