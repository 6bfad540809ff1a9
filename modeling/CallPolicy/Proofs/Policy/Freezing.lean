import CallPolicy.Policy.Contract

/-! What freezing makes of a draft.

An edit may do anything to a draft, so what contracts promise of their declarations comes from
freezing alone. `Freezes` says what becomes of a draft, whatever made it.
-/

set_option autoImplicit false

namespace CallPolicy

/-- A search that passes over later repetitions finds the same. -/
theorem find?_distinct {α : Type} [DecidableEq α] (select : α → Bool) (list : List α) :
    (distinct list).find? select = list.find? select := by
  induction list with
  | nil => rfl
  | cons head rest ih =>
    rw [distinct, List.find?_cons, List.find?_cons]
    cases selected : select head with
    | true => rfl
    | false =>
      -- The head is not looked for, so it does not matter that its repetitions are gone.
      have others : (fun x => decide ((x != head) = true ∧ select x = true)) = select := by
        funext x
        by_cases same : x = head
        · simp [same, selected]
        · simp [same]
      rw [List.find?_filter, others, ih]

theorem FirstOccurrences.nodup {α : Type} [DecidableEq α] {list kept : List α} (first : FirstOccurrences list kept) :
    kept.Nodup := by
  refine first.ordered.imp ?_
  rintro earlier later before rfl
  exact Nat.lt_irrefl _ before

theorem FirstOccurrences.unique {α : Type} [DecidableEq α] {list first second : List α}
    (one : FirstOccurrences list first) (other : FirstOccurrences list second) : first = second := by
  have same : first.Perm second :=
    (List.perm_ext_iff_of_nodup one.nodup other.nodup).2 fun x => (one.mem_iff x).trans (other.mem_iff x).symm
  refine same.eq_of_pairwise ?_ one.ordered other.ordered
  intro earlier later _ _ before behind
  exact absurd before (Nat.lt_asymm behind)

namespace Draft

def Specifies (draft : Draft) (function : String) : Prop :=
  ∃ spec, draft.specs.get? function = some spec

/-- No function is declared twice, and each has a specification. -/
structure Sound (draft : Draft) : Prop where
  declared_once : draft.declaredFunctions.Nodup
  specified : ∀ function ∈ draft.declaredFunctions, draft.Specifies function

/-- What freezing makes of a draft: a contract that differs in the repeated declarations alone, or
the error that names the first declared function without a specification. -/
inductive Freezes (draft : Draft) : Except SchemaError Contract → Prop where
  | contract {contract : Contract} (specified : ∀ function ∈ draft.declaredFunctions, draft.Specifies function)
      (declared : FirstOccurrences draft.declaredFunctions contract.declaredFunctions)
      (unchanged : contract.toDraft = { draft with declaredFunctions := contract.declaredFunctions }) :
      Freezes draft (.ok contract)
  | refused {function : String} {earlier later : List String}
      (position : draft.declaredFunctions = earlier ++ function :: later)
      (before : ∀ other ∈ earlier, draft.Specifies other) (missing : ¬ draft.Specifies function) :
      Freezes draft (.error (.missingSpec function))

theorem freeze_freezes (draft : Draft) : draft.Freezes draft.freeze := by
  unfold freeze
  split
  · next function found =>
    rw [find?_distinct, List.find?_eq_some_iff_append] at found
    obtain ⟨missing, earlier, later, position, before⟩ := found
    refine .refused position (fun other member => ?_) fun specified => ?_
    · exact (Keyed.contains_iff _ _).1 (by simpa using before other member)
    · rw [(Keyed.contains_iff _ _).2 specified] at missing
      cases missing
  · next found =>
    rw [find?_distinct] at found
    refine .contract (fun function member => ?_) (firstOccurrences_distinct _) rfl
    exact (Keyed.contains_iff _ _).1 (by simpa using List.find?_eq_none.1 found function member)

theorem Freezes.sound {draft : Draft} {contract : Contract} (freezes : draft.Freezes (.ok contract)) :
    contract.toDraft.Sound := by
  cases freezes with
  | contract specified declared unchanged =>
    refine ⟨declared.nodup, fun function member => ?_⟩
    rw [unchanged]
    exact specified function ((declared.mem_iff function).1 member)

theorem sound_of_freeze {draft : Draft} {contract : Contract} (frozen : draft.freeze = .ok contract) :
    contract.toDraft.Sound := by
  have freezes := draft.freeze_freezes
  rw [frozen] at freezes
  exact freezes.sound

end Draft

end CallPolicy
