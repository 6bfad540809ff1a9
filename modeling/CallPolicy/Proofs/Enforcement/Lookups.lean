import CallPolicy.Proofs.Enforcement.Runs

/-! What a guarded call leaves in the cache of its caller.

A call looks up its own call graph. If its time is not limited, its body runs in the same process, and
leaves there what the calls that it makes leave. A worker has a cache of its own, which is lost with it.
-/

set_option autoImplicit false

namespace CallPolicy

open Json (Value)

/-! ### The calls of a body -/

/-- A call that a body makes: what it begins with, and its run. -/
structure NestedCall where
  function : String
  arguments : Arguments
  before : Memory
  ran : Ran Reply

/-- The calls that a program comes to make, in their order. One that is not delivered is the last. -/
def Program.nestedCalls (isolated : Bool) (call : String → Arguments → Memory → Option (Ran Reply)) :
    Program → Memory → List NestedCall
  | .done _, _ => []
  | .sleep _ rest, memory => rest.nestedCalls isolated call memory
  | .count next, memory =>
    (next (memory.counter + 1)).nestedCalls isolated call { memory with counter := memory.counter + 1 }
  | .whereabouts next, memory => (next isolated).nestedCalls isolated call memory
  | .call function arguments next, memory =>
    match call function arguments memory with
    | none => (next none).nestedCalls isolated call memory
    | some ran => ⟨function, arguments, memory, ran⟩ ::
      match ran.ending with
      | .delivered reply => (next (some reply)).nestedCalls isolated call ran.memory
      | _ => []

/-- Calls that hand on a cache: each begins with what the one before has left, and the last one leaves
what there is at the end. -/
inductive HandsOn : Cache → List NestedCall → Cache → Prop where
  | nothing (cache : Cache) : HandsOn cache [] cache
  | call (nested : NestedCall) {later : List NestedCall} {last : Cache}
      (next : HandsOn nested.ran.memory.cache later last) : HandsOn nested.before.cache (nested :: later) last

namespace Program

variable {isolated : Bool} {call : String → Arguments → Memory → Option (Ran Reply)}

/-- A program touches the cache in its calls alone. -/
theorem run_handsOn (program : Program) (memory : Memory) :
    HandsOn memory.cache (program.nestedCalls isolated call memory) (program.run isolated call memory).memory.cache := by
  induction program generalizing memory with
  | done ending => exact .nothing memory.cache
  | sleep duration rest ih => exact ih memory
  | count next ih => exact ih _ { memory with counter := memory.counter + 1 }
  | whereabouts next ih => exact ih isolated memory
  | call function arguments next ih =>
    rw [run, nestedCalls]
    cases call function arguments memory with
    | none => exact ih none memory
    | some ran =>
      obtain ⟨ending, elapsed, left, starts⟩ := ran
      -- The program goes on from the memory of a call that comes back, and is over after any other.
      cases ending with
      | delivered reply => exact .call ⟨function, arguments, memory, _⟩ (ih (some reply) left)
      | _ => exact .call ⟨function, arguments, memory, _⟩ (.nothing left.cache)

theorem answered_of_mem_nestedCalls {program : Program} {memory : Memory} {nested : NestedCall}
    (member : nested ∈ program.nestedCalls isolated call memory) :
    call nested.function nested.arguments nested.before = some nested.ran := by
  induction program generalizing memory with
  | done ending => cases member
  | sleep duration rest ih => exact ih member
  | count next ih => exact ih _ member
  | whereabouts next ih => exact ih _ member
  | call function arguments next ih =>
    rw [nestedCalls] at member
    cases answered : call function arguments memory with
    | none =>
      rw [answered] at member
      exact ih none member
    | some ran =>
      rw [answered] at member
      cases member with
      | head => exact answered
      | tail _ later =>
        cases ending : ran.ending with
        | delivered reply =>
          rw [ending] at later
          exact ih (some reply) later
        | _ =>
          rw [ending] at later
          cases later

end Program

/-- Searches that account for each call account for all of them. -/
theorem HandsOn.eq_serve {first last : Cache} {calls : List NestedCall} {requests : NestedCall → List Request}
    (handsOn : HandsOn first calls last)
    (each : ∀ nested ∈ calls, nested.ran.memory.cache = (nested.before.cache.serve (requests nested)).2) :
    last = (first.serve (calls.flatMap requests)).2 := by
  induction handsOn with
  | nothing cache => rfl
  | call nested next ih =>
    obtain ⟨here, later⟩ := List.forall_mem_cons.1 each
    rw [List.flatMap_cons, Cache.serve_append, ← here]
    exact ih later

/-! ### One call -/

theorem Ran.isolate_memory (ran : Ran (Except FunctionError Value)) (limit : Duration) (memory : Memory) :
    (ran.isolate limit memory).memory = memory := by
  unfold isolate
  split
  · rfl
  · split <;> rfl

namespace GovernedFunction

/-- The search of a call for its own call graph. A function that is not declared is not looked up. -/
def ownLookup (function : GovernedFunction) (contract : Contract) : List Request :=
  if function.name ∈ contract.declaredFunctions then [⟨function.source, function.name⟩] else []

/-- The memory right after the search of a call for its own call graph. -/
def lookedUp (function : GovernedFunction) (contract : Contract) (memory : Memory) : Memory :=
  { memory with cache := (memory.cache.serve (function.ownLookup contract)).2 }

variable {function : GovernedFunction} {contract : Contract} {isolated : Bool}
  {call : Bool → Caller → String → Arguments → Memory → Option (Ran Reply)} {caller : Caller} {arguments : Arguments}
  {memory : Memory} {spec : FunctionSpec} {bound : Bound}

theorem check_cache (contract : Contract) (caller : Caller) (arguments : Arguments) (memory : Memory) :
    (function.check contract caller arguments memory.cache).2 = (function.lookedUp contract memory).cache := by
  by_cases declared : function.name ∈ contract.declaredFunctions
  · rw [check_cache_of_declared declared, lookedUp, ownLookup, if_pos declared]
    rfl
  · rw [lookedUp, ownLookup, if_neg declared]
    simp only [check, Contract.declaredSpec?_of_undeclared declared, Cache.serve]

theorem memory_of_refused {error : CallError}
    (checked : (function.check contract caller arguments memory.cache).1 = .error error) :
    (function.callWith contract isolated call caller arguments memory).memory = function.lookedUp contract memory := by
  have refused : function.check contract caller arguments memory.cache =
      (.error error, (function.lookedUp contract memory).cache) := Prod.ext checked (check_cache _ _ _ _)
  rw [callWith, refused]
  rfl

theorem memory_of_passed (checked : (function.check contract caller arguments memory.cache).1 = .ok (spec, bound)) :
    (function.callWith contract isolated call caller arguments memory).memory =
      (function.execute spec bound isolated caller call (function.lookedUp contract memory)).memory := by
  have passed : function.check contract caller arguments memory.cache =
      (.ok (spec, bound), (function.lookedUp contract memory).cache) := Prod.ext checked (check_cache _ _ _ _)
  rw [callWith_of_passed passed]
  rfl

/-- Whatever becomes of a worker, and of the calls in it, the memory is as it was handed in. -/
theorem execute_memory_of_limited (limited : spec.maxRuntimeSeconds.isPositive = true) :
    (function.execute spec bound isolated caller call memory).memory = memory := by
  rw [execute, FunctionSpec.timeout_of_positive limited]
  cases isolated with
  | true => rfl
  | false => exact Ran.isolate_memory _ _ _

theorem execute_memory_of_unlimited (unlimited : spec.maxRuntimeSeconds.isPositive = false) :
    (function.execute spec bound isolated caller call memory).memory =
      ((function.body ⟨function.name, bound⟩).run isolated (call isolated (.function function.name)) memory).memory := by
  rw [execute, spec.timeout_eq_none_iff.2 unlimited]
  rfl

/-- The calls that a call makes in the process of its caller: those of its body, unless this does not
come to run there. -/
def callsInProcess (function : GovernedFunction) (contract : Contract) (isolated : Bool)
    (call : Bool → Caller → String → Arguments → Memory → Option (Ran Reply)) (caller : Caller) (arguments : Arguments)
    (memory : Memory) : List NestedCall :=
  match (function.check contract caller arguments memory.cache).1 with
  | .error _ => []
  | .ok (spec, bound) =>
    if spec.maxRuntimeSeconds.isPositive then []
    else (function.body ⟨function.name, bound⟩).nestedCalls isolated (call isolated (.function function.name))
      (function.lookedUp contract memory)

theorem callWith_handsOn : HandsOn (function.lookedUp contract memory).cache
    (function.callsInProcess contract isolated call caller arguments memory)
    (function.callWith contract isolated call caller arguments memory).memory.cache := by
  rw [callsInProcess]
  cases checked : (function.check contract caller arguments memory.cache).1 with
  | error error =>
    rw [memory_of_refused checked]
    exact .nothing _
  | ok passed =>
    obtain ⟨spec, bound⟩ := passed
    rw [memory_of_passed checked]
    by_cases limited : spec.maxRuntimeSeconds.isPositive = true
    -- A worker keeps its calls, and what they find, to itself.
    · simp only [if_pos limited, execute_memory_of_limited limited]
      exact .nothing _
    · simp only [if_neg limited, execute_memory_of_unlimited (Bool.eq_false_iff.2 limited)]
      exact Program.run_handsOn _ _

theorem answered_of_mem_callsInProcess {nested : NestedCall}
    (member : nested ∈ function.callsInProcess contract isolated call caller arguments memory) :
    call isolated (.function function.name) nested.function nested.arguments nested.before = some nested.ran := by
  rw [callsInProcess] at member
  split at member
  · cases member
  · split at member
    · cases member
    · exact Program.answered_of_mem_nestedCalls member

end GovernedFunction

/-! ### Whole runs -/

namespace Guards

/-- The searches of a run that leave their mark: a call's own one, and those of the calls that its body
makes in the same process. No search counts that has a time limit above it. -/
def lookups (guards : Guards) : Nat → Bool → Caller → String → Arguments → Memory → List Request
  | 0, _, _, _, _, _ => []
  | depth + 1, isolated, caller, name, arguments, memory =>
    match guards.functions.get? name with
    | none => []
    | some function => function.ownLookup guards.contract ++
      (function.callsInProcess guards.contract isolated (guards.call depth) caller arguments memory).flatMap
        fun nested => guards.lookups depth isolated (.function function.name) nested.function nested.arguments nested.before

variable {guards : Guards} {depth : Nat} {isolated : Bool} {caller : Caller} {name : String} {arguments : Arguments}
  {memory : Memory} {ran : Ran Reply}

theorem cache_eq_serve_lookups (answered : guards.call depth isolated caller name arguments memory = some ran) :
    ran.memory.cache = (memory.cache.serve (guards.lookups depth isolated caller name arguments memory)).2 := by
  induction depth generalizing isolated caller name arguments memory ran with
  | zero =>
    obtain ⟨function, _, same⟩ := Option.map_eq_some_iff.1 answered
    subst same
    rfl
  | succ depth ih =>
    obtain ⟨function, found, same⟩ := Option.map_eq_some_iff.1 answered
    subst same
    rw [lookups, found]
    simp only [Cache.serve_append]
    -- Each call of the body accounts for itself, as it nests less deep.
    apply GovernedFunction.callWith_handsOn.eq_serve
    intro nested member
    exact ih (GovernedFunction.answered_of_mem_callsInProcess member)

end Guards

/-- A call of a function with a time limit leaves the memory as it was after its own search, whatever its
body calls and however it ends. Any other call leaves the cache that the calls of its body have handed
on, and one that is refused leaves what its search has found. Of a whole run just those searches leave
their mark that no time limit has above them. -/
theorem timed_body_leaves_no_trace (guards : Guards) (depth : Nat) (isolated : Bool) (caller : Caller) (name : String)
    (arguments : Arguments) (memory : Memory) (function : GovernedFunction)
    (found : guards.functions.get? name = some function) :
    ∃ ran, guards.call (depth + 1) isolated caller name arguments memory = some ran ∧
      (∀ spec, guards.contract.specs.get? function.name = some spec → spec.maxRuntimeSeconds.isPositive = true →
        ran.memory = function.lookedUp guards.contract memory) ∧
      (∀ error, (function.check guards.contract caller arguments memory.cache).1 = .error error →
        ran.memory = function.lookedUp guards.contract memory) ∧
      (∀ spec bound, (function.check guards.contract caller arguments memory.cache).1 = .ok (spec, bound) →
        spec.maxRuntimeSeconds.isPositive = false →
        HandsOn (function.lookedUp guards.contract memory).cache
          ((function.body ⟨function.name, bound⟩).nestedCalls isolated
            (guards.call depth isolated (.function function.name)) (function.lookedUp guards.contract memory))
          ran.memory.cache) ∧
      ran.memory.cache =
        (memory.cache.serve (guards.lookups (depth + 1) isolated caller name arguments memory)).2 := by
  have answered : guards.call (depth + 1) isolated caller name arguments memory =
      some (function.callWith guards.contract isolated (guards.call depth) caller arguments memory) := by
    rw [Guards.call, found, Option.map_some]
  refine ⟨_, answered, ?_, ?_, ?_, Guards.cache_eq_serve_lookups answered⟩
  · intro spec specified limited
    cases checked : (function.check guards.contract caller arguments memory.cache).1 with
    | error error => exact GovernedFunction.memory_of_refused checked
    | ok passed =>
      obtain ⟨own, bound⟩ := passed
      -- The specification that the checks find is the one that the contract has.
      have same : own = spec := Option.some.inj ((GovernedFunction.specified_of_check checked).symm.trans specified)
      subst same
      rw [GovernedFunction.memory_of_passed checked, GovernedFunction.execute_memory_of_limited limited]
  · intro error checked
    exact GovernedFunction.memory_of_refused checked
  · intro spec bound checked unlimited
    rw [GovernedFunction.memory_of_passed checked, GovernedFunction.execute_memory_of_unlimited unlimited]
    exact Program.run_handsOn _ _

section

/-- It calls the function that calls on. -/
def launching : GovernedFunction where
  name := "top"
  parameters := []
  source := ⟨.python, "def top():\n    f()\n"⟩
  body _ := .call "f" ⟨[], []⟩ fun _ => .returned .null

/-- Of three layers, only the time of the middle one may be limited. -/
def layeredContract (budget : Binary64) : Contract where
  raiseOnViolation := false
  declaredFunctions := ["top", "f", "g"]
  allowedImports := .empty
  globalAllowedCalls := .empty
  specs := .ofList [
    ("top", { FunctionSpec.empty with allowedCalls := .ofList ["f"], allowedCallers := .ofList ["<module>"] }),
    ("f", { FunctionSpec.empty with
      allowedCalls := .ofList ["g"], allowedCallers := .ofList ["top"], maxRuntimeSeconds := budget }),
    ("g", { FunctionSpec.empty with parameters := .ofList [("x", .integer)], allowedCallers := .ofList ["f"] })]
  declared_nodup := by simp
  declared_specified := by simp [Keyed.contains, Keyed.ofList]

def layers (budget : Binary64) : Guards where
  contract := layeredContract budget
  functions := .ofList [("top", launching), ("f", relaying), ("g", relayed)]

/-- The functions whose bodies a run starts. -/
def Guards.started (guards : Guards) (depth : Nat) (caller : Caller) (name : String) : Option (List String) :=
  (guards.call depth false caller name ⟨[], []⟩ .empty).map fun ran => ran.starts.map (·.function)

/-- Both ways the innermost body starts. What is looked up for it stays with the worker of the middle
layer, unless there is none. -/
theorem traces_of_layers :
    (∃ ran, (layers (.ofNat 8)).call 2 false (.function "top") "f" ⟨[], []⟩ .empty = some ran ∧
      ran.memory = relaying.lookedUp (layeredContract (.ofNat 8)) .empty) ∧
    (∃ ran, (layers (.ofNat 8)).call 3 false .module "top" ⟨[], []⟩ .empty = some ran ∧
      (layers (.ofNat 8)).started 3 .module "top" = some ["top", "f", "g"] ∧
      ran.memory.cache = (Cache.empty.serve [⟨launching.source, "top"⟩, ⟨relaying.source, "f"⟩]).2) ∧
    (∃ ran, (layers .zero).call 3 false .module "top" ⟨[], []⟩ .empty = some ran ∧
      (layers .zero).started 3 .module "top" = some ["top", "f", "g"] ∧
      ran.memory.cache = (Cache.empty.serve [⟨launching.source, "top"⟩, ⟨relaying.source, "f"⟩,
        ⟨relayed.source, "g"⟩, ⟨relayed.source, "g"⟩]).2) := by
  refine ⟨?middle, ?limited, ?unlimited⟩
  case middle =>
    obtain ⟨ran, answered, ofTimed, _⟩ := timed_body_leaves_no_trace (layers (.ofNat 8)) 1 false (.function "top") "f"
      ⟨[], []⟩ .empty relaying rfl
    exact ⟨ran, answered, ofTimed _ rfl (by decide)⟩
  case limited =>
    obtain ⟨ran, answered, _, _, _, searched⟩ := timed_body_leaves_no_trace (layers (.ofNat 8)) 2 false .module "top"
      ⟨[], []⟩ .empty launching rfl
    have seen : ((layers (.ofNat 8)).started 3 .module "top", (layers (.ofNat 8)).lookups 3 false .module "top" ⟨[], []⟩ .empty) =
        (some ["top", "f", "g"], [⟨launching.source, "top"⟩, ⟨relaying.source, "f"⟩]) := by decide +kernel
    obtain ⟨started, those⟩ := Prod.mk.inj seen
    exact ⟨ran, answered, started, those ▸ searched⟩
  case unlimited =>
    obtain ⟨ran, answered, _, _, _, searched⟩ := timed_body_leaves_no_trace (layers .zero) 2 false .module "top"
      ⟨[], []⟩ .empty launching rfl
    have seen : ((layers .zero).started 3 .module "top", (layers .zero).lookups 3 false .module "top" ⟨[], []⟩ .empty) =
        (some ["top", "f", "g"], [⟨launching.source, "top"⟩, ⟨relaying.source, "f"⟩, ⟨relayed.source, "g"⟩,
          ⟨relayed.source, "g"⟩]) := by decide +kernel
    obtain ⟨started, those⟩ := Prod.mk.inj seen
    exact ⟨ran, answered, started, those ▸ searched⟩

end

end CallPolicy
