import CallPolicy.Proofs.Enforcement.Calls

/-! What a contract promises of a whole run.

A body may call guarded functions, whose bodies call others in turn. However deep this goes, and
whatever becomes of the calls, no body starts that the contract does not permit, and each is
started in the name of the function that runs around it.
-/

set_option autoImplicit false

namespace CallPolicy

open Json (Value)

/-! ### Starts -/

/-- The function is declared, its caller is allowed, and each argument is a parameter in the
contract and passes its predicate. -/
structure Contract.Permits (contract : Contract) (start : Start) : Prop where
  declared : start.function ∈ contract.declaredFunctions
  admitted : ∃ spec, contract.specs.get? start.function = some spec ∧ start.caller ∈ spec.allowedCallers.keys ∧
    ∀ entry ∈ start.bound, ∃ predicate, spec.parameters.get? entry.1 = some predicate ∧ predicate.accepts entry.2 = true

/-- Starts in their order, from the calls of one caller. What a body calls comes right after its
own start, and before what the caller calls next. -/
inductive StartedBy : String → List Start → Prop where
  | nothing (caller : String) : StartedBy caller []
  | body {start : Start} {inside later : List Start} (inner : StartedBy start.function inside)
      (next : StartedBy start.caller later) : StartedBy start.caller (start :: (inside ++ later))

theorem StartedBy.append {caller : String} {earlier later : List Start} (first : StartedBy caller earlier)
    (second : StartedBy caller later) : StartedBy caller (earlier ++ later) := by
  induction first with
  | nothing => exact second
  | body inner _ _ ih =>
    rw [List.cons_append, List.append_assoc]
    exact .body inner (ih second)

/-- Only permitted bodies start, each in the name of the function around it. -/
structure Contract.Governs (contract : Contract) (caller : String) (starts : List Start) : Prop where
  permitted : ∀ start ∈ starts, contract.Permits start
  nested : StartedBy caller starts

namespace Contract.Governs

variable {contract : Contract} {caller : String}

theorem nothing : contract.Governs caller [] :=
  ⟨by simp, .nothing caller⟩

theorem append {earlier later : List Start} (first : contract.Governs caller earlier)
    (second : contract.Governs caller later) : contract.Governs caller (earlier ++ later) :=
  ⟨List.forall_mem_append.2 ⟨first.permitted, second.permitted⟩, first.nested.append second.nested⟩

theorem body {start : Start} {inside : List Start} (permitted : contract.Permits start)
    (inner : contract.Governs start.function inside) : contract.Governs start.caller ([start] ++ inside) := by
  refine ⟨List.forall_mem_append.2 ⟨by simpa using permitted, inner.permitted⟩, ?_⟩
  have nested := StartedBy.body inner.nested (.nothing start.caller)
  rw [List.append_nil] at nested
  exact nested

end Contract.Governs

/-! ### One call -/

namespace GovernedFunction

variable {function : GovernedFunction} {contract : Contract} {caller : Caller} {arguments : Arguments} {cache : Cache}
  {spec : FunctionSpec} {bound : Bound}

theorem accepted_of_checkArguments (passed : function.checkArguments spec arguments = .ok bound) :
    ∀ entry ∈ bound, ∃ predicate, spec.parameters.get? entry.1 = some predicate ∧ predicate.accepts entry.2 = true := by
  unfold checkArguments at passed
  split at passed
  · cases passed
  · split at passed
    · cases passed
    · next declared =>
      split at passed
      · cases passed
      · next valid =>
        cases passed
        rw [spec.firstUndeclared_eq_none_iff] at declared
        rw [spec.firstInvalid_eq_none_iff] at valid
        intro entry member
        obtain ⟨predicate, specified⟩ := (Keyed.mem_keys_iff _ _).1 (declared entry member)
        exact ⟨predicate, specified, valid entry member predicate specified⟩

theorem caller_of_checkCall {graph : CallGraph} (passed : function.checkCall contract spec graph caller arguments = .ok bound) :
    caller.identifier ∈ spec.allowedCallers.keys ∧ function.checkArguments spec arguments = .ok bound := by
  unfold checkCall at passed
  split at passed
  · cases passed
  · split at passed
    · next allowed =>
      rw [Keyed.contains_iff, ← Keyed.mem_keys_iff] at allowed
      exact ⟨allowed, passed⟩
    · cases passed

/-- The checks keep their promise whatever the cache may say of the calls. -/
theorem permits_of_check (passed : (function.check contract caller arguments cache).1 = .ok (spec, bound)) :
    contract.Permits ⟨function.name, caller.identifier, bound⟩ := by
  unfold check at passed
  split at passed
  · cases passed
  · next found =>
    obtain ⟨declared, specified⟩ := (Contract.declaredSpec?_eq_some_iff _ _ _).1 found
    split at passed
    · cases passed
    · split at passed
      · cases passed
      · next checked =>
        cases passed
        obtain ⟨allowed, checked⟩ := caller_of_checkCall checked
        exact ⟨declared, spec, specified, allowed, accepted_of_checkArguments checked⟩

end GovernedFunction

theorem Ran.andThen_governed {α β : Type} {contract : Contract} {caller : String} {ran : Ran α}
    {next : α → Memory → Ran β} (first : contract.Governs caller ran.starts)
    (second : ∀ value memory, contract.Governs caller (next value memory).starts) :
    contract.Governs caller (ran.andThen next).starts := by
  unfold andThen
  cases ran.ending with
  | delivered value => exact first.append (second value ran.memory)
  | panicked message => exact first
  | exited => exact first
  | stalled => exact first

theorem Ran.isolate_starts (ran : Ran (Except FunctionError Value)) (limit : Duration) (memory : Memory) :
    (ran.isolate limit memory).starts = ran.starts := by
  unfold isolate
  split
  · rfl
  · split <;> rfl

/-- A body starts what its calls start, and nothing else. -/
theorem Program.run_governed {contract : Contract} {caller : String} {isolated : Bool}
    {call : String → Arguments → Memory → Option (Ran Reply)}
    (answers : ∀ function arguments memory ran, call function arguments memory = some ran →
      contract.Governs caller ran.starts) (program : Program) (memory : Memory) :
    contract.Governs caller (program.run isolated call memory).starts := by
  induction program generalizing memory with
  | done ending => exact .nothing
  | sleep duration rest ih => exact ih memory
  | count next ih => exact ih _ _
  | whereabouts next ih => exact ih _ memory
  | call function arguments next ih =>
    rw [run]
    cases answered : call function arguments memory with
    | none => exact ih none memory
    | some ran => exact Ran.andThen_governed (answers _ _ _ _ answered) fun reply memory => ih (some reply) memory

namespace GovernedFunction

variable {function : GovernedFunction} {contract : Contract} {isolated : Bool}
  {call : Bool → Caller → String → Arguments → Memory → Option (Ran Reply)} {caller : Caller} {arguments : Arguments}
  {memory : Memory} {spec : FunctionSpec} {bound : Bound}

theorem execute_governed (permitted : contract.Permits ⟨function.name, caller.identifier, bound⟩)
    (answers : ∀ isolated name arguments memory ran, call isolated (.function function.name) name arguments memory = some ran →
      contract.Governs function.name ran.starts) :
    contract.Governs caller.identifier (function.execute spec bound isolated caller call memory).starts := by
  unfold execute
  cases spec.timeout with
  | none => exact .body permitted (Program.run_governed (answers isolated) _ _)
  | some limit =>
    cases isolated with
    | true => exact .nothing
    | false =>
      refine .body permitted ?_
      rw [Ran.map, Ran.isolate_starts]
      exact Program.run_governed (answers true) _ _

theorem callWith_governed
    (answers : ∀ isolated name arguments memory ran, call isolated (.function function.name) name arguments memory = some ran →
      contract.Governs function.name ran.starts) :
    contract.Governs caller.identifier (function.callWith contract isolated call caller arguments memory).starts := by
  rcases checked : function.check contract caller arguments memory.cache with ⟨error | ⟨spec, bound⟩, cache⟩
  · rw [(callWith_of_refused (congrArg Prod.fst checked)).2]
    exact .nothing
  · rw [callWith_of_passed checked]
    exact execute_governed (permits_of_check (congrArg Prod.fst checked)) answers

end GovernedFunction

/-! ### Whole runs -/

/-- The starts of a guarded call under one contract. What its body calls is answered by guarded calls
under the same contract, of any guards, each with the memory it may have. -/
inductive GuardedRun (contract : Contract) : Caller → List Start → Prop where
  | unanswered (caller : Caller) : GuardedRun contract caller []
  | called {function : GovernedFunction} {isolated : Bool}
      {call : Bool → Caller → String → Arguments → Memory → Option (Ran Reply)} {caller : Caller} {arguments : Arguments}
      {memory : Memory}
      (answers : ∀ isolated caller name arguments memory ran,
        call isolated caller name arguments memory = some ran → GuardedRun contract caller ran.starts) :
      GuardedRun contract caller (function.callWith contract isolated call caller arguments memory).starts

theorem GuardedRun.governed {contract : Contract} {caller : Caller} {starts : List Start}
    (run : GuardedRun contract caller starts) : contract.Governs caller.identifier starts := by
  induction run with
  | unanswered caller => exact .nothing
  | called _ ih =>
    exact GovernedFunction.callWith_governed fun isolated name arguments memory ran answered =>
      ih isolated _ name arguments memory ran answered

/-- Guards of one contract that share one memory. -/
theorem Guards.call_guardedRun {guards : Guards} {depth : Nat} {isolated : Bool} {caller : Caller} {name : String}
    {arguments : Arguments} {memory : Memory} {ran : Ran Reply}
    (answered : guards.call depth isolated caller name arguments memory = some ran) :
    GuardedRun guards.contract caller ran.starts := by
  induction depth generalizing isolated caller name arguments memory ran with
  | zero =>
    obtain ⟨function, _, same⟩ := Option.map_eq_some_iff.1 answered
    exact same ▸ .unanswered caller
  | succ depth ih =>
    obtain ⟨function, _, same⟩ := Option.map_eq_some_iff.1 answered
    exact same ▸ .called fun _ _ _ _ _ _ answered => ih answered

/-- Whatever guards of one contract do in a run, every body that starts is declared, has a caller
that is allowed, and receives arguments that the contract accepts; and its caller is the function
that runs around it, or the one that the run began with. -/
theorem whole_run_governed (contract : Contract) :
    (∀ caller starts, GuardedRun contract caller starts →
      (∀ start ∈ starts, contract.Permits start) ∧ StartedBy caller.identifier starts) ∧
    ∀ (guards : Guards) depth isolated caller name arguments memory ran, guards.contract = contract →
      guards.call depth isolated caller name arguments memory = some ran → GuardedRun contract caller ran.starts := by
  constructor
  · intro caller starts run
    exact ⟨run.governed.permitted, run.governed.nested⟩
  · rintro guards depth isolated caller name arguments memory ran rfl answered
    exact Guards.call_guardedRun answered

section

/-- It calls another function twice, the second time with a text for a number. -/
def relaying : GovernedFunction where
  name := "f"
  parameters := []
  source := ⟨.python, "def f():\n    g(1)\n    g('a')\n"⟩
  body _ := .call "g" ⟨[.integer 1], []⟩ fun _ => .call "g" ⟨[.string "a"], []⟩ fun _ => .returned .null

def relayed : GovernedFunction where
  name := "g"
  parameters := [⟨"x", none⟩]
  source := ⟨.python, "def g(x):\n    pass\n"⟩
  body _ := .failed "no luck"

/-- The outer function runs in a worker, and may not return what it returns. -/
def relayContract (raises : Bool) : Contract where
  raiseOnViolation := raises
  declaredFunctions := ["f", "g"]
  allowedImports := .empty
  globalAllowedCalls := .empty
  specs := .ofList [
    ("f", { FunctionSpec.empty with
      returns := .notNull, allowedCalls := .ofList ["g"], allowedCallers := .ofList ["<module>"],
      maxRuntimeSeconds := .ofNat 8 }),
    ("g", { FunctionSpec.empty with parameters := .ofList [("x", .integer)], allowedCallers := .ofList ["f"] })]
  declared_nodup := by simp
  declared_specified := by simp; exact ⟨rfl, rfl⟩

def relayGuards (raises : Bool) : Guards where
  contract := relayContract raises
  functions := .ofList [("f", relaying), ("g", relayed)]

/-- The first of the inner calls fails, the second one is refused, and so is what the body returns. -/
theorem whole_run_of_relay :
    ∃ ran, (relayGuards false).call 3 false .module "f" ⟨[], []⟩ .empty = some ran ∧
      ran.starts.map (fun start => (start.caller, start.function)) = [("<module>", "f"), ("f", "g")] ∧
      (∀ start ∈ ran.starts, (relayContract false).Permits start) ∧ StartedBy "<module>" ran.starts := by
  have listed : (((relayGuards false).call 3 false .module "f" ⟨[], []⟩ .empty).map fun ran =>
      ran.starts.map fun start => (start.caller, start.function)) = some [("<module>", "f"), ("f", "g")] := by
    decide +kernel
  obtain ⟨ran, answered, starts⟩ := Option.map_eq_some_iff.1 listed
  obtain ⟨safe, governed⟩ := whole_run_governed (relayContract false)
  obtain ⟨permitted, nested⟩ := safe _ _ (governed (relayGuards false) _ _ _ _ _ _ ran rfl answered)
  exact ⟨ran, answered, starts, permitted, nested⟩

end

end CallPolicy
