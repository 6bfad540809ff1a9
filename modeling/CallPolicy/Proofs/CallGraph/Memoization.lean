import CallPolicy.CallGraph.Cache
import CallPolicy.Distinct
import Mathlib.Data.List.Nodup
import Mathlib.Data.List.Perm.Basic
import Mathlib.Tactic.Tauto

/-! Remembered call graphs are the call graphs that extraction gives.

Digests may collide, so a cache is trusted one entry at a time: it is faithful to a function
when what it holds for it, if anything, is what its source says. Requests whose digests do not
collide keep every entry that they read faithful.
-/

set_option autoImplicit false

namespace CallPolicy

theorem extractFunction_eq_ok {unit : SourceUnit} {function : String} {graph : CallGraph}
    (found : (extractFunction unit function).toOption = some graph) : extractFunction unit function = .ok graph := by
  cases answered : extractFunction unit function with
  | ok other =>
    rw [answered] at found
    cases found
    rfl
  | error error =>
    rw [answered] at found
    cases found

/-- A search for the call graph of a function. -/
structure Request where
  unit : SourceUnit
  function : String
  deriving DecidableEq

namespace Request

def key (request : Request) : String :=
  Cache.key request.unit request.function

/-- What extraction says, whatever any cache holds. -/
def answer (request : Request) : Except ExtractionError CallGraph :=
  extractFunction request.unit request.function

def succeeds (request : Request) : Bool :=
  request.answer.isOk

theorem succeeds_iff (request : Request) : request.succeeds = true ↔ ∃ graph, request.answer = .ok graph := by
  cases answered : request.answer <;> simp [succeeds, answered, Except.isOk, Except.toBool]

end Request

namespace Cache

/-- What the cache holds for a function, if anything, is what its source says. -/
def Faithful (cache : Cache) (unit : SourceUnit) (function : String) : Prop :=
  ∀ graph, cache.graphs.get? (key unit function) = some graph → extractFunction unit function = .ok graph

theorem faithful_empty (unit : SourceUnit) (function : String) : empty.Faithful unit function := by
  intro graph held
  cases held

theorem functionGraph_answer {cache : Cache} {unit : SourceUnit} {function : String}
    (faithful : cache.Faithful unit function) :
    (cache.functionGraph unit function).1 = extractFunction unit function := by
  unfold functionGraph
  cases held : cache.graphs.get? (key unit function) with
  | some graph => exact (faithful graph held).symm
  | none => cases extractFunction unit function <;> rfl

theorem functionGraph_of_error {cache : Cache} {unit : SourceUnit} {function : String} {error : ExtractionError}
    (failed : (cache.functionGraph unit function).1 = .error error) : (cache.functionGraph unit function).2 = cache := by
  unfold functionGraph at failed ⊢
  cases held : cache.graphs.get? (key unit function) with
  | some graph => rfl
  | none =>
    cases answered : extractFunction unit function with
    | ok graph => simp [held, answered] at failed
    | error error => rfl

/-- A request can only add an entry, and only for its own key. -/
theorem get?_functionGraph (cache : Cache) (unit : SourceUnit) (function other : String) :
    (cache.functionGraph unit function).2.graphs.get? other =
      (cache.graphs.get? other).or
        (if other = key unit function then (extractFunction unit function).toOption else none) := by
  unfold functionGraph
  cases held : cache.graphs.get? (key unit function) with
  | some graph =>
    by_cases same : other = key unit function
    · simp [same, held]
    · simp [same]
  | none =>
    cases answered : extractFunction unit function with
    | ok graph =>
      by_cases same : other = key unit function
      · simp [same, held, Except.toOption]
      · simp [same]
    | error error =>
      simp [Except.toOption]

theorem functionGraph_keeps {cache : Cache} {unit : SourceUnit} {function other : String} {graph : CallGraph}
    (held : cache.graphs.get? other = some graph) :
    (cache.functionGraph unit function).2.graphs.get? other = some graph := by
  rw [get?_functionGraph, held, Option.some_or]

/-- What a request adds for its own function is true of it, whatever was there before. -/
theorem Faithful.functionGraph {cache : Cache} {unit : SourceUnit} {function : String}
    (faithful : cache.Faithful unit function) : (cache.functionGraph unit function).2.Faithful unit function := by
  intro graph held
  rw [get?_functionGraph, if_pos rfl] at held
  cases before : cache.graphs.get? (key unit function) with
  | some old =>
    rw [before, Option.some_or] at held
    cases held
    exact faithful graph before
  | none =>
    rw [before, Option.none_or] at held
    cases answered : extractFunction unit function with
    | ok found =>
      rw [answered] at held
      cases held
      rfl
    | error error =>
      rw [answered] at held
      cases held

/-! ### Sequences of requests -/

/-- Answer requests one after another. -/
def serve : Cache → List Request → List (Except ExtractionError CallGraph) × Cache
  | cache, [] => ([], cache)
  | cache, request :: rest =>
    let first := cache.functionGraph request.unit request.function
    let others := first.2.serve rest
    (first.1 :: others.1, others.2)

theorem serve_append (cache : Cache) (earlier later : List Request) :
    cache.serve (earlier ++ later) =
      ((cache.serve earlier).1 ++ ((cache.serve earlier).2.serve later).1, ((cache.serve earlier).2.serve later).2) := by
  induction earlier generalizing cache with
  | nil => rfl
  | cons request rest ih => simp only [List.cons_append, serve, ih]

theorem serve_keeps {cache : Cache} {requests : List Request} {other : String} {graph : CallGraph}
    (held : cache.graphs.get? other = some graph) : (cache.serve requests).2.graphs.get? other = some graph := by
  induction requests generalizing cache with
  | nil => exact held
  | cons request rest ih => exact ih (functionGraph_keeps held)

/-- The cache holds the graphs of the requests that have been served with success, and nothing else. -/
def Remembers (cache : Cache) (served : List Request) : Prop :=
  ∀ other graph, cache.graphs.get? other = some graph ↔
    ∃ request ∈ served, request.key = other ∧ request.answer = .ok graph

/-- No two different requests have one digest. -/
def Separate (requests : List Request) : Prop :=
  ∀ first ∈ requests, ∀ second ∈ requests, first.key = second.key → first = second

instance (requests : List Request) : Decidable (Separate requests) :=
  inferInstanceAs (Decidable (∀ first ∈ requests, ∀ second ∈ requests, first.key = second.key → first = second))

theorem remembers_empty : empty.Remembers [] := by
  intro other graph
  constructor
  · intro held
    cases held
  · rintro ⟨request, member, _⟩
    cases member

theorem Remembers.faithful {cache : Cache} {served : List Request} (remembers : cache.Remembers served)
    {request : Request} (separate : Separate (request :: served)) :
    cache.Faithful request.unit request.function := by
  intro graph held
  obtain ⟨earlier, member, sameKey, answered⟩ := (remembers request.key graph).1 held
  have same : earlier = request :=
    separate earlier (List.mem_cons_of_mem _ member) request List.mem_cons_self sameKey
  exact same ▸ answered

theorem Remembers.step {cache : Cache} {served : List Request} (remembers : cache.Remembers served)
    {request : Request} (separate : Separate (request :: served)) :
    (cache.functionGraph request.unit request.function).2.Remembers (request :: served) := by
  intro other graph
  rw [get?_functionGraph]
  by_cases held : ∃ old, cache.graphs.get? other = some old
  · -- An entry that is there stays, and no other request for its key can have another answer.
    obtain ⟨old, held⟩ := held
    obtain ⟨earlier, member, sameKey, answered⟩ := (remembers other old).1 held
    rw [held, Option.some_or]
    constructor
    · intro same
      cases same
      exact ⟨earlier, List.mem_cons_of_mem _ member, sameKey, answered⟩
    · rintro ⟨second, secondMember, secondKey, secondAnswer⟩
      have same : earlier = second :=
        separate earlier (List.mem_cons_of_mem _ member) second secondMember (sameKey.trans secondKey.symm)
      rw [same, secondAnswer] at answered
      cases answered
      rfl
  · have absent : cache.graphs.get? other = none := by
      cases found : cache.graphs.get? other with
      | none => rfl
      | some old => exact absurd ⟨old, found⟩ held
    rw [absent, Option.none_or]
    constructor
    · intro added
      split at added
      · next sameKey =>
        refine ⟨request, List.mem_cons_self, sameKey.symm, ?_⟩
        unfold Request.answer
        cases answered : extractFunction request.unit request.function with
        | ok found =>
          rw [answered] at added
          cases added
          rfl
        | error error =>
          rw [answered] at added
          cases added
      · cases added
    · rintro ⟨second, member, sameKey, answered⟩
      rcases List.mem_cons.1 member with same | member
      · subst same
        refine (if_pos sameKey.symm).trans ?_
        exact congrArg Except.toOption answered
      · exact absurd ⟨graph, (remembers other graph).2 ⟨second, member, sameKey, answered⟩⟩ held

theorem Remembers.serve {cache : Cache} {served requests : List Request} (remembers : cache.Remembers served)
    (separate : Separate (requests ++ served)) :
    (cache.serve requests).1 = requests.map Request.answer ∧
      (cache.serve requests).2.Remembers (requests ++ served) := by
  induction requests generalizing cache served with
  | nil => exact ⟨rfl, remembers⟩
  | cons request rest ih =>
    -- Served requests pile up in reverse, so membership is all that is kept of their order.
    have inOrder : ∀ entry, entry ∈ rest ++ request :: served ↔ entry ∈ request :: rest ++ served := by
      intro entry
      simp only [List.mem_append, List.mem_cons]
      tauto
    have here : Separate (request :: served) := by
      intro first firstMember second secondMember sameKey
      refine separate first ?_ second ?_ sameKey <;> simp_all only [List.mem_append, List.mem_cons] <;> tauto
    have later : Separate (rest ++ request :: served) := by
      intro first firstMember second secondMember sameKey
      exact separate first ((inOrder first).1 firstMember) second ((inOrder second).1 secondMember) sameKey
    obtain ⟨answers, kept⟩ := ih (remembers.step here) later
    refine ⟨?_, ?_⟩
    · simp only [Cache.serve, List.map_cons, answers, functionGraph_answer (remembers.faithful here)]
      rfl
    · intro other graph
      simp only [← inOrder]
      exact kept other graph

theorem Remembers.size {cache : Cache} {served : List Request} (remembers : cache.Remembers served)
    (separate : Separate served) :
    cache.size = (distinct (served.filter Request.succeeds)).length := by
  have keysNodup : ((distinct (served.filter Request.succeeds)).map Request.key).Nodup := by
    refine List.Nodup.map_on ?_ (nodup_distinct _)
    intro first firstMember second secondMember sameKey
    rw [mem_distinct, List.mem_filter] at firstMember secondMember
    exact separate first firstMember.1 second secondMember.1 sameKey
  -- Both lists of keys are free of repetitions and have the same members.
  have sameKeys : cache.graphs.keys.Perm ((distinct (served.filter Request.succeeds)).map Request.key) := by
    rw [List.perm_ext_iff_of_nodup cache.graphs.nodup_keys keysNodup]
    intro other
    rw [Keyed.mem_keys_iff, List.mem_map]
    constructor
    · rintro ⟨graph, held⟩
      obtain ⟨request, member, sameKey, answered⟩ := (remembers other graph).1 held
      refine ⟨request, ?_, sameKey⟩
      exact mem_distinct.2 (List.mem_filter.2 ⟨member, request.succeeds_iff.2 ⟨graph, answered⟩⟩)
    · rintro ⟨request, member, sameKey⟩
      obtain ⟨member, succeeds⟩ := List.mem_filter.1 (mem_distinct.1 member)
      obtain ⟨graph, answered⟩ := request.succeeds_iff.1 succeeds
      exact ⟨graph, (remembers other graph).2 ⟨request, member, sameKey, answered⟩⟩
  simpa [Cache.size, Keyed.keys] using sameKeys.length_eq

/-- Without collisions a cache cannot be told from extraction: every answer is that of extraction,
a failure leaves no mark, entries stay as they are, and there is one for each request, repetitions
apart, that succeeded. -/
theorem memoization_invisible (requests : List Request) (separate : Separate requests) :
    (empty.serve requests).1 = requests.map Request.answer ∧
    (∀ earlier request later error, requests = earlier ++ request :: later →
      ((empty.serve earlier).2.functionGraph request.unit request.function).1 = .error error →
      (empty.serve (earlier ++ [request])).2 = (empty.serve earlier).2) ∧
    (∀ earlier later other graph, requests = earlier ++ later →
      (empty.serve earlier).2.graphs.get? other = some graph →
      (empty.serve requests).2.graphs.get? other = some graph) ∧
    (empty.serve requests).2.size = (distinct (requests.filter Request.succeeds)).length := by
  have all : requests ++ [] = requests := List.append_nil requests
  obtain ⟨answers, remembers⟩ := remembers_empty.serve (all.symm ▸ separate)
  rw [all] at remembers
  refine ⟨answers, ?_, ?_, remembers.size separate⟩
  · intro earlier request later error _ failed
    rw [serve_append]
    exact functionGraph_of_error failed
  · intro earlier later other graph parts held
    rw [parts, serve_append]
    exact serve_keeps held

/-- A source, a function that it lacks, an edit of it, the first again, and another language. -/
def editedRequests : List Request :=
  [⟨⟨.python, "def f():\n    g()\n"⟩, "f"⟩, ⟨⟨.python, "def f():\n    g()\n"⟩, "h"⟩,
    ⟨⟨.python, "def f():\n    h()\n"⟩, "f"⟩, ⟨⟨.python, "def f():\n    g()\n"⟩, "f"⟩,
    ⟨⟨.rust, "fn f() \x7b g() \x7d"⟩, "f"⟩]

theorem memoization_of_edits :
    Separate editedRequests ∧ (empty.serve editedRequests).1 = editedRequests.map Request.answer ∧
      (empty.serve editedRequests).2.size = 3 := by
  have separate : Separate editedRequests := by decide +kernel
  have memoized := memoization_invisible editedRequests separate
  have succeeded : (distinct (editedRequests.filter Request.succeeds)).length = 3 := by decide +kernel
  exact ⟨separate, memoized.1, memoized.2.2.2.trans succeeded⟩

end Cache

end CallPolicy
