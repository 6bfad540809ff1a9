import CallPolicy.Proofs.Documents.RoundTrip
import CallPolicy.Proofs.Documents.Wire

/-! Violations that are sent on.

A violation is text, but for the limit of a call that ran out of time. JSON has numbers for finite limits
only, and no others are exceeded: what is not finite lies past the end of the clock.
-/

set_option autoImplicit false

namespace CallPolicy

open Json (Value)

/-! ### Deadlines -/

namespace Duration

theorem longest_never_arrives : longest.arrives = false := by
  decide

/-- Only a finite number of seconds has a deadline that arrives. -/
theorem isFinite_of_arrives {seconds : Binary64} (arrives : (ofPositive seconds).arrives = true) :
    seconds.isFinite = true := by
  rw [← Bool.not_eq_false]
  intro infinite
  have longest_limit : ofPositive seconds = longest := by
    rw [ofPositive, infinite]
    rfl
  rw [longest_limit, longest_never_arrives] at arrives
  cases arrives

end Duration

theorem FunctionSpec.isFinite_of_arrives {spec : FunctionSpec} {limit : Duration} (limited : spec.timeout = some limit)
    (arrives : limit.arrives = true) : spec.maxRuntimeSeconds.isFinite = true := by
  cases positive : spec.maxRuntimeSeconds.isPositive with
  | false =>
    rw [spec.timeout_eq_none_iff.2 positive] at limited
    cases limited
  | true =>
    rw [timeout_of_positive positive] at limited
    cases limited
    exact Duration.isFinite_of_arrives arrives

/-- A worker is only stopped at a deadline that arrives. -/
theorem Ran.arrives_of_expired {ran : Ran (Except FunctionError Value)} {limit : Duration} {memory : Memory}
    (expired : (ran.isolate limit memory).ending = .delivered (.ok .expired)) : limit.arrives = true := by
  unfold isolate at expired
  split at expired
  · -- A report of a body that has ended tells of no deadline.
    dsimp only at expired
    split at expired
    · cases expired
    · split at expired
      · next received _ => cases received <;> cases expired
      · cases expired
  · split at expired
    · next arrives => exact arrives
    · cases expired

/-! ### What a call delivers -/

namespace GovernedFunction

variable {function : GovernedFunction} {contract : Contract} {isolated : Bool}
  {call : Bool → Caller → String → Arguments → Memory → Option (Ran Reply)} {caller : Caller} {arguments : Arguments}
  {memory : Memory} {cache : Cache} {spec : FunctionSpec} {bound : Bound} {graph : CallGraph} {violation : Violation}

theorem portable_of_checkArguments (refused : function.checkArguments spec arguments = .error violation) :
    violation.Portable := by
  unfold checkArguments at refused
  split at refused
  · cases refused
    trivial
  · split at refused
    · cases refused
      trivial
    · split at refused
      · cases refused
        trivial
      · cases refused

theorem portable_of_checkCall (refused : function.checkCall contract spec graph caller arguments = .error violation) :
    violation.Portable := by
  unfold checkCall at refused
  split at refused
  · cases refused
    trivial
  · split at refused
    · exact portable_of_checkArguments refused
    · cases refused
      trivial

/-- The checks before the body know of no limit. -/
theorem portable_of_check
    (refused : (function.check contract caller arguments cache).1 = .error (.violation violation)) :
    violation.Portable := by
  unfold check at refused
  split at refused
  · cases refused
    trivial
  · split at refused
    · cases refused
    · split at refused
      · next checked =>
        cases refused
        exact portable_of_checkCall checked
      · cases refused

/-- The only violation that a body can end in is that of its limit, which then is finite. -/
theorem Executes.limit_of_violation
    (executed : function.Executes isolated call memory spec bound (.delivered (.error (.violation violation)))) :
    violation = .timeoutExceeded function.name spec.maxRuntimeSeconds ∧ spec.maxRuntimeSeconds.isFinite = true := by
  generalize final : Ending.delivered (Except.error (CallError.violation violation)) = ending at executed
  cases executed with
  | @inProcess ending unlimited ran =>
    rcases ending with (⟨_ | _⟩ | _ | _ | _) <;> cases final
  | @inWorker limit ending limited outside ran =>
    rcases ending with (⟨_ | ⟨⟨_ | _⟩ | _⟩⟩ | _ | _ | _) <;> cases final
    exact ⟨rfl, FunctionSpec.isFinite_of_arrives limited (Ran.arrives_of_expired ran)⟩
  | waiting => cases final

theorem portable_of_endsIn
    (printed : ∀ spec, contract.specs.get? function.name = some spec →
      spec.maxRuntimeSeconds.isFinite = true → spec.maxRuntimeSeconds.ReadsBack)
    (ended : EndsIn (function.callWith contract isolated call caller arguments memory) (.violation violation)) :
    violation.Portable := by
  obtain ⟨reply, ended, held⟩ := ended
  rcases checked : function.check contract caller arguments memory.cache with ⟨error | ⟨spec, bound⟩, cache⟩
  · rw [(callWith_of_refused (congrArg Prod.fst checked)).1] at ended
    cases ended
    rw [failure?_deliver] at held
    cases held
    exact portable_of_check (congrArg Prod.fst checked)
  · rw [callWith_of_passed checked, Ran.map] at ended
    have executed : function.Executes isolated call { memory with cache } spec bound
        (function.execute spec bound isolated caller call { memory with cache }).ending := (executes_iff _).2 rfl
    generalize (function.execute spec bound isolated caller call { memory with cache }).ending = ending at executed ended
    rcases ending with (⟨error | value⟩ | _ | _ | _)
    · cases ended
      have same : CallError.violation violation = error := Option.some.inj (held.symm.trans (failure?_deliver error))
      subst same
      obtain ⟨rfl, finite⟩ := executed.limit_of_violation
      exact ⟨finite, printed spec (specified_of_check (congrArg Prod.fst checked)) finite⟩
    · simp only [Ending.map, Except.bind, checkResult] at ended
      split at ended
      · cases ended
        cases held
      · cases ended
        cases held.symm.trans (failure?_deliver _)
        trivial
    · cases ended
    · cases ended
    · cases ended

/-- A violation that a guarded call delivers, raised or wrapped, is read back from its document as it is,
whatever the limit of the function: not a number, infinite, negative or huge. Of a finite limit it is assumed
that it reads back from its own text. -/
theorem delivered_violation_reads_back (function : GovernedFunction) (contract : Contract) (isolated : Bool)
    (call : Bool → Caller → String → Arguments → Memory → Option (Ran Reply)) (caller : Caller) (arguments : Arguments)
    (memory : Memory) (violation : Violation)
    (printed : ∀ spec, contract.specs.get? function.name = some spec →
      spec.maxRuntimeSeconds.isFinite = true → spec.maxRuntimeSeconds.ReadsBack)
    (delivered :
      (function.callWith contract isolated call caller arguments memory).ending =
          .delivered (.error (.violation violation)) ∨
        (function.callWith contract isolated call caller arguments memory).ending =
          .delivered (.ok (.violated violation))) :
    Violation.decoder.ReadsBack violation.toJson violation := by
  have ended : EndsIn (function.callWith contract isolated call caller arguments memory) (.violation violation) := by
    rcases delivered with raised | wrapped
    · exact ⟨_, raised, rfl⟩
    · exact ⟨_, wrapped, rfl⟩
  have portable := portable_of_endsIn printed ended
  exact Json.Decoder.Decodes.readsBack (Violation.decodes 0 portable) (by decide)

section

/-- A body that takes a second. -/
def dozing : GovernedFunction :=
  { holding .null with body := fun _ => .sleep ⟨Duration.perSecond⟩ (.returned .null) }

theorem dozing_admitted (budget : Binary64) :
    dozing.Admitted (holdingContract budget) .module ⟨[], []⟩ (holdingSpec budget) [] := by
  have admitted := holding_admitted .null budget
  exact
    { declared := admitted.declared
      specified := admitted.specified
      calls_allowed := admitted.calls_allowed
      caller_allowed := admitted.caller_allowed
      binds := admitted.binds
      parameters_declared := admitted.parameters_declared
      values_accepted := admitted.values_accepted }

theorem dozing_ending {budget : Binary64} {ending : Ending (Except WorkerError Timed)}
    (limited : budget.isPositive = true)
    (ran : (((dozing.body ⟨"f", []⟩).run true (noCalls true (.function "f")) (dozing.entered .empty)).isolate
      (Duration.ofPositive budget) (dozing.entered .empty)).ending = ending) :
    (dozing.callWith (holdingContract budget) false noCalls .module ⟨[], []⟩ .empty).ending =
      dozing.concluded (holdingContract budget) (holdingSpec budget) (ending.map (dozing.received (holdingSpec budget))) := by
  have faithful : Memory.empty.cache.Faithful dozing.source dozing.name := Cache.faithful_empty _ _
  have timeout : (holdingSpec budget).timeout = some (Duration.ofPositive budget) :=
    FunctionSpec.timeout_of_positive limited
  exact callWith_ending_of_executes faithful (dozing_admitted budget) (.inWorker timeout rfl ran)

/-- Half a second is exceeded, and the violation of it reads back. An infinite limit is not exceeded. -/
theorem delivered_violation_of_dozing :
    (dozing.callWith (holdingContract half) false noCalls .module ⟨[], []⟩ .empty).ending =
        .delivered (.ok (.violated (.timeoutExceeded "f" half))) ∧
      Violation.decoder.ReadsBack (Violation.timeoutExceeded "f" half).toJson (.timeoutExceeded "f" half) ∧
      (dozing.callWith (holdingContract (.infinity false)) false noCalls .module ⟨[], []⟩ .empty).ending =
        .delivered (.ok (.ok .null)) := by
  have late : ((dozing.body ⟨"f", []⟩).run true (noCalls true (.function "f")) (dozing.entered .empty)).inTime
      (Duration.ofPositive half) = false := by decide +kernel
  have arrives : (Duration.ofPositive half).arrives = true := by decide +kernel
  have expired : (((dozing.body ⟨"f", []⟩).run true (noCalls true (.function "f")) (dozing.entered .empty)).isolate
      (Duration.ofPositive half) (dozing.entered .empty)).ending = .delivered (.ok .expired) := by
    rw [Ran.isolate, late, arrives]
    rfl
  have exceeded := dozing_ending (by decide +kernel) expired
  have printed : ∀ spec, (holdingContract half).specs.get? dozing.name = some spec →
      spec.maxRuntimeSeconds.isFinite = true → spec.maxRuntimeSeconds.ReadsBack := by
    intro spec specified _
    cases specified
    exact half_readsBack
  have finishes : FinishesBy ((dozing.body ⟨"f", []⟩).run true (noCalls true (.function "f")) (dozing.entered .empty))
      (Duration.ofPositive (.infinity false)) (.returned .null) := ⟨rfl, .null, by decide +kernel⟩
  refine ⟨exceeded, delivered_violation_reads_back dozing (holdingContract half) false noCalls .module ⟨[], []⟩ .empty
    (.timeoutExceeded "f" half) printed (.inr exceeded), ?_⟩
  exact dozing_ending (by decide +kernel) (finishes.isolate_of_crosses (by decide) _)

end

end GovernedFunction

end CallPolicy
