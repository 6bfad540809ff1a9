import CallPolicy.Policy.Edit
import CallPolicy.Proofs.Enforcement.Runs

/-! What a contract that does not raise its violations changes.

Nothing but the form in which a caller receives a violation. The checks do not look at the switch,
nor does the body, as long as it goes on in the same way whether a violation is raised or wrapped.
-/

set_option autoImplicit false

namespace CallPolicy

open Json (Value)

/-- The second contract is the first one, which raises its violations, with the switch turned off. -/
structure Contract.Quieted (raising quiet : Contract) : Prop where
  raises : raising.raiseOnViolation = true
  switched : quiet.toDraft = raising.toDraft.applyEdit (.raise false)

/-- A violation that is raised, as it is wrapped. -/
def quieten : Reply → Reply
  | .error (.violation violation) => .ok (.violated violation)
  | reply => reply

theorem Ran.map_map {α β γ : Type} (first : α → β) (second : β → γ) (ran : Ran α) :
    (ran.map first).map second = ran.map fun value => second (first value) := by
  obtain ⟨ending, elapsed, memory, starts⟩ := ran
  cases ending <;> rfl

namespace Contract.Quieted

variable {raising quiet : Contract}

theorem raiseOnViolation_eq (quieted : Quieted raising quiet) : quiet.raiseOnViolation = false := by
  have switched := congrArg Draft.raiseOnViolation quieted.switched
  exact switched

theorem declaredSpec?_eq (quieted : Quieted raising quiet) : quiet.declaredSpec? = raising.declaredSpec? := by
  obtain ⟨draft, _, _⟩ := quiet
  cases quieted.switched
  rfl

theorem isCallAllowed_eq (quieted : Quieted raising quiet) : quiet.isCallAllowed = raising.isCallAllowed := by
  obtain ⟨draft, _, _⟩ := quiet
  cases quieted.switched
  rfl

theorem deliver_eq (quieted : Quieted raising quiet) (result : Except CallError Value) :
    GovernedFunction.deliver quiet result = quieten (GovernedFunction.deliver raising result) := by
  rcases result with (violation | _ | _ | _) | value
  · simp [GovernedFunction.deliver, quieten, quieted.raises, quieted.raiseOnViolation_eq]
  all_goals rfl

end Contract.Quieted

namespace GovernedFunction

variable {function : GovernedFunction} {raising quiet : Contract} {isolated : Bool}
  {raisingCall quietCall : Bool → Caller → String → Arguments → Memory → Option (Ran Reply)} {caller : Caller}
  {arguments : Arguments} {memory : Memory} {spec : FunctionSpec} {bound : Bound}

theorem check_quieted (quieted : Contract.Quieted raising quiet) (caller : Caller) (arguments : Arguments) (cache : Cache) :
    function.check quiet caller arguments cache = function.check raising caller arguments cache := by
  simp only [check, checkCall, Contract.firstRefusedCall, quieted.declaredSpec?_eq, quieted.isCallAllowed_eq]

/-- The body takes the same course whichever of the two ways its own calls are answered. -/
def Indifferent (function : GovernedFunction)
    (raisingCall quietCall : Bool → Caller → String → Arguments → Memory → Option (Ran Reply)) : Prop :=
  ∀ isolated bound memory,
    (function.body ⟨function.name, bound⟩).run isolated (quietCall isolated (.function function.name)) memory =
      (function.body ⟨function.name, bound⟩).run isolated (raisingCall isolated (.function function.name)) memory

theorem execute_quieted (indifferent : function.Indifferent raisingCall quietCall) :
    function.execute spec bound isolated caller quietCall memory =
      function.execute spec bound isolated caller raisingCall memory := by
  simp only [execute, Invocation.caller, indifferent isolated bound memory, indifferent true bound memory]

/-- The two calls start the same bodies, take the same time and leave the same memory. -/
theorem callWith_quieted (isolated : Bool) (caller : Caller) (arguments : Arguments) (memory : Memory)
    (quieted : Contract.Quieted raising quiet) (indifferent : function.Indifferent raisingCall quietCall) :
    function.callWith quiet isolated quietCall caller arguments memory =
      (function.callWith raising isolated raisingCall caller arguments memory).map quieten := by
  rw [callWith, callWith, check_quieted quieted]
  rcases function.check raising caller arguments memory.cache with ⟨error | ⟨spec, bound⟩, cache⟩
  · simp only [quieted.deliver_eq]
    rfl
  · simp only [execute_quieted indifferent, quieted.deliver_eq, Ran.map_map]

theorem callWith_delivered {contract : Contract}
    {call : Bool → Caller → String → Arguments → Memory → Option (Ran Reply)} {reply : Reply}
    (ended : (function.callWith contract isolated call caller arguments memory).ending = .delivered reply) :
    ∃ result, reply = deliver contract result := by
  rcases checked : function.check contract caller arguments memory.cache with ⟨error | ⟨spec, bound⟩, cache⟩
  · rw [(callWith_of_refused (congrArg Prod.fst checked)).1] at ended
    cases ended
    exact ⟨_, rfl⟩
  · rw [callWith_of_passed checked, Ran.map] at ended
    generalize (function.execute spec bound isolated caller call { memory with cache }).ending = ending at ended
    cases ending with
    | delivered result =>
      cases ended
      exact ⟨_, rfl⟩
    | _ => cases ended

theorem deliver_ne_violated {contract : Contract} (raises : contract.raiseOnViolation = true)
    (result : Except CallError Value) (violation : Violation) : deliver contract result ≠ .ok (.violated violation) := by
  rcases result with (_ | _ | _ | _) | _ <;> simp [deliver, raises]

theorem deliver_ne_violation {contract : Contract} (quiet : contract.raiseOnViolation = false)
    (result : Except CallError Value) (violation : Violation) :
    deliver contract result ≠ .error (.violation violation) := by
  rcases result with (_ | _ | _ | _) | _ <;> simp [deliver, quiet]

end GovernedFunction

/-! ### Bodies that take a violation either way -/

namespace Program

/-- The program goes on in the same way whether a violation of a call of its is raised or wrapped. -/
inductive Unmoved : Program → Prop where
  | done (ending : Ending (Except FunctionError Value)) : Unmoved (.done ending)
  | sleep (duration : Duration) {rest : Program} (later : rest.Unmoved) : Unmoved (.sleep duration rest)
  | count {next : Nat → Program} (later : ∀ sum, (next sum).Unmoved) : Unmoved (.count next)
  | whereabouts {next : Bool → Program} (later : ∀ isolated, (next isolated).Unmoved) : Unmoved (.whereabouts next)
  | call (function : String) (arguments : Arguments) {next : Option Reply → Program}
      (same : ∀ reply, next (some (quieten reply)) = next (some reply)) (later : ∀ reply, (next reply).Unmoved) :
      Unmoved (.call function arguments next)

theorem Unmoved.run_eq {program : Program} (unmoved : program.Unmoved) {isolated : Bool}
    {raisingCall quietCall : String → Arguments → Memory → Option (Ran Reply)}
    (answers : ∀ function arguments memory,
      quietCall function arguments memory = (raisingCall function arguments memory).map (·.map quieten))
    (memory : Memory) : program.run isolated quietCall memory = program.run isolated raisingCall memory := by
  induction unmoved generalizing memory with
  | done ending => rfl
  | sleep duration later ih => rw [run, run, ih]
  | count later ih => exact ih _ _
  | whereabouts later ih => exact ih _ memory
  | @call function arguments next same later ih =>
    rw [run, run, answers]
    cases raisingCall function arguments memory with
    | none => exact ih none memory
    | some ran =>
      obtain ⟨ending, elapsed, memory, starts⟩ := ran
      cases ending with
      | delivered reply =>
        simp only [Option.map_some, Ran.map, Ending.map, Ran.andThen, same, ih]
      | _ => rfl

end Program

/-- Guards of bodies that take a violation either way give the same runs under both contracts. -/
theorem Guards.call_quieted {guards : Guards} {quiet : Contract} (quieted : Contract.Quieted guards.contract quiet)
    (unmoved : ∀ name function, guards.functions.get? name = some function →
      ∀ bound, (function.body ⟨function.name, bound⟩).Unmoved)
    (depth : Nat) (isolated : Bool) (caller : Caller) (name : String) (arguments : Arguments) (memory : Memory) :
    (guards.rebind quiet).call depth isolated caller name arguments memory =
      (guards.call depth isolated caller name arguments memory).map (·.map quieten) := by
  induction depth generalizing isolated caller name arguments memory with
  | zero =>
    rw [call, call, Option.map_map]
    rfl
  | succ depth ih =>
    rw [call, call, Option.map_map]
    refine Option.map_congr fun function found => ?_
    refine GovernedFunction.callWith_quieted isolated caller arguments memory quieted fun inWorker bound memory => ?_
    exact (unmoved name function found bound).run_eq (ih inWorker _) memory

/-- The error that a guarded call ends in. -/
def Ran.error? (ran : Ran Reply) : Option CallError :=
  match ran.ending with
  | .delivered (.error error) => some error
  | _ => none

theorem Ran.ending_of_error? {ran : Ran Reply} {error : CallError} (given : ran.error? = some error) :
    ran.ending = .delivered (.error error) := by
  unfold error? at given
  split at given
  · next ending =>
    cases given
    exact ending
  · cases given

namespace GovernedFunction

/-- Two contracts that differ in the switch alone start the same bodies with the same arguments, and
leave the same memory; what they deliver is the same as well, but that the one raises a violation
where the other one wraps it. -/
theorem delivery_only (function : GovernedFunction) (raising quiet : Contract) (isolated : Bool)
    (raisingCall quietCall : Bool → Caller → String → Arguments → Memory → Option (Ran Reply)) (caller : Caller)
    (arguments : Arguments) (memory : Memory) (quieted : Contract.Quieted raising quiet)
    (indifferent : function.Indifferent raisingCall quietCall) :
    (function.callWith quiet isolated quietCall caller arguments memory).starts =
      (function.callWith raising isolated raisingCall caller arguments memory).starts ∧
    (function.callWith quiet isolated quietCall caller arguments memory).memory =
      (function.callWith raising isolated raisingCall caller arguments memory).memory ∧
    (function.callWith quiet isolated quietCall caller arguments memory).elapsed =
      (function.callWith raising isolated raisingCall caller arguments memory).elapsed ∧
    (function.callWith quiet isolated quietCall caller arguments memory).ending =
      (function.callWith raising isolated raisingCall caller arguments memory).ending.map quieten ∧
    ∀ violation,
      (function.callWith raising isolated raisingCall caller arguments memory).ending ≠
          .delivered (.ok (.violated violation)) ∧
        (function.callWith quiet isolated quietCall caller arguments memory).ending ≠
          .delivered (.error (.violation violation)) := by
  have same := callWith_quieted isolated caller arguments memory quieted indifferent
  refine ⟨?_, ?_, ?_, ?_, fun violation => ⟨?_, ?_⟩⟩
  · rw [same]
    rfl
  · rw [same]
    rfl
  · rw [same]
    rfl
  · rw [same]
    rfl
  · intro ended
    obtain ⟨result, delivered⟩ := callWith_delivered ended
    exact deliver_ne_violated quieted.raises result violation delivered.symm
  · intro ended
    obtain ⟨result, delivered⟩ := callWith_delivered ended
    exact deliver_ne_violation quieted.raiseOnViolation_eq result violation delivered.symm

theorem relaying_unmoved (bound : Bound) : (relaying.body ⟨"f", bound⟩).Unmoved :=
  .call _ _ (fun _ => rfl) fun _ => .call _ _ (fun _ => rfl) fun _ => .done _

/-- The guards have no body that looks at how a violation reaches it. -/
theorem relayGuards_unmoved (name : String) (function : GovernedFunction)
    (found : (relayGuards true).functions.get? name = some function) (bound : Bound) :
    (function.body ⟨function.name, bound⟩).Unmoved := by
  rw [relayGuards, Keyed.get?_ofList] at found
  simp only [List.reverse_cons, List.reverse_nil, List.nil_append, List.cons_append, Keyed.look] at found
  split at found
  · cases found
    exact .done _
  · split at found
    · cases found
      exact relaying_unmoved bound
    · cases found

/-- A refused return, after a refused inner call: raised under the one contract, wrapped under the other. -/
theorem delivery_of_relay :
    ∃ raised wrapped : Ran Reply,
      raised = relaying.callWith (relayContract true) false ((relayGuards true).call 2) .module ⟨[], []⟩ .empty ∧
      wrapped = relaying.callWith (relayContract false) false
        (((relayGuards true).rebind (relayContract false)).call 2) .module ⟨[], []⟩ .empty ∧
      raised.ending = .delivered (.error (.violation (.returnInvalid "f" "null" "not_null"))) ∧
      wrapped.ending = .delivered (.ok (.violated (.returnInvalid "f" "null" "not_null"))) ∧
      wrapped.starts = raised.starts ∧ raised.starts.length = 2 := by
  have quieted : Contract.Quieted (relayContract true) (relayContract false) := ⟨rfl, rfl⟩
  have indifferent : relaying.Indifferent ((relayGuards true).call 2)
      (((relayGuards true).rebind (relayContract false)).call 2) := fun inWorker bound memory =>
    (relaying_unmoved bound).run_eq (Guards.call_quieted quieted relayGuards_unmoved 2 inWorker _) memory
  obtain ⟨starts, -, -, ending, -⟩ :=
    delivery_only relaying _ _ false _ _ .module ⟨[], []⟩ .empty quieted indifferent
  generalize ran : relaying.callWith (relayContract true) false ((relayGuards true).call 2) .module ⟨[], []⟩ .empty =
    raised at starts ending ⊢
  have seen : (raised.error?, raised.starts.length) =
      (some (.violation (.returnInvalid "f" "null" "not_null")), 2) := by
    subst ran
    decide +kernel
  obtain ⟨refused, counted⟩ := Prod.mk.inj seen
  have ended := Ran.ending_of_error? refused
  rw [ended] at ending
  exact ⟨_, _, rfl, rfl, ended, ending, starts, counted⟩

end GovernedFunction

end CallPolicy
