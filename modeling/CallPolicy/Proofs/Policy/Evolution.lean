import CallPolicy.Proofs.Policy.Revisions

/-! Revisions made one after another, and all at once.

Between two revisions the draft is frozen, which drops repeated declarations. No edit looks at how often
a function is declared, so they may as well be dropped at the end.
-/

set_option autoImplicit false

namespace CallPolicy

namespace Draft

variable {draft : Draft}

/-! ### Repeated declarations -/

/-- The draft without later repetitions of a declaration. -/
def pruned (draft : Draft) : Draft :=
  { draft with declaredFunctions := distinct draft.declaredFunctions }

theorem freeze_eq_error_iff {error : SchemaError} :
    draft.freeze = .error error ↔
      ∃ function, draft.declaredFunctions.find? (fun name => !draft.specs.contains name) = some function ∧
        error = .missingSpec function := by
  rw [← find?_distinct]
  unfold freeze
  split
  · next function found => simp [found, eq_comm]
  · next found => simp [found]

/-- Freezing drops the repetitions itself. -/
theorem freeze_pruned (draft : Draft) : draft.pruned.freeze = draft.freeze := by
  cases frozen : draft.freeze with
  | error error =>
    obtain ⟨function, found, same⟩ := freeze_eq_error_iff.1 frozen
    exact freeze_eq_error_iff.2 ⟨function, (find?_distinct _ _).trans found, same⟩
  | ok contract =>
    obtain ⟨specified, same⟩ := freeze_eq_ok_iff.1 frozen
    apply freeze_eq_ok_iff.2
    refine ⟨fun function declared => specified function (mem_distinct.1 declared), ?_⟩
    simp only [same, pruned, distinct_of_nodup (nodup_distinct _)]

/-- It makes no difference to the outcome of a change whether repetitions are dropped before it. -/
def BlindToRepetitions (change : Draft → Draft) : Prop :=
  ∀ draft, (change draft.pruned).pruned = (change draft).pruned

theorem BlindToRepetitions.freeze_eq {change : Draft → Draft} (blind : BlindToRepetitions change) (draft : Draft) :
    (change draft.pruned).freeze = (change draft).freeze := by
  rw [← freeze_pruned, blind, freeze_pruned]

/-! ### Edits -/

/-- What an edit does to a draft. A specification that is there may be changed in any way. -/
inductive IsEdit : (Draft → Draft) → Prop where
  | edit (edit : Edit) : IsEdit fun draft => draft.applyEdit edit
  | changeSpec (function : String) (change : FunctionSpec → FunctionSpec) :
      IsEdit fun draft => { draft with specs := draft.specs.modify function change }

/-- Make changes one after another. -/
def inTurn (changes : List (Draft → Draft)) (draft : Draft) : Draft :=
  changes.foldl (fun draft change => change draft) draft

theorem pruned_declare (draft : Draft) (function : String) (spec : FunctionSpec) :
    (draft.pruned.declare function spec).pruned = (draft.declare function spec).pruned := by
  have listed : draft.pruned.declaredFunctions.contains function = draft.declaredFunctions.contains function := by
    simp [pruned]
  simp only [declare, listed]
  cases draft.declaredFunctions.contains function with
  | true => simp [pruned, distinct_of_nodup (nodup_distinct _)]
  | false => simp [pruned, distinct_distinct_append]

/-- One edit. Those of the declared functions add a name behind the others, unless it is there, or
take all of its occurrences away. -/
theorem blind_applyEdit (edit : Edit) : BlindToRepetitions fun draft => draft.applyEdit edit := by
  intro draft
  have once : distinct (distinct draft.declaredFunctions) = distinct draft.declaredFunctions :=
    distinct_of_nodup (nodup_distinct _)
  cases edit with
  | declare function spec => exact pruned_declare draft function spec
  | push function => simp only [applyEdit, pruned, distinct_distinct_append]
  | undeclare function => simp only [applyEdit, pruned, distinct_filter, once]
  | _ => simp only [applyEdit, pruned, once]

theorem IsEdit.blind {change : Draft → Draft} (edit : IsEdit change) : BlindToRepetitions change := by
  cases edit with
  | edit edit => exact blind_applyEdit edit
  | changeSpec function change =>
    intro draft
    simp only [pruned, distinct_of_nodup (nodup_distinct _)]

/-- A run of edits. -/
theorem blind_inTurn {changes : List (Draft → Draft)} (edits : ∀ change ∈ changes, IsEdit change) :
    BlindToRepetitions (inTurn changes) := by
  induction changes with
  | nil =>
    intro draft
    simp only [inTurn, List.foldl_nil, pruned, distinct_of_nodup (nodup_distinct _)]
  | cons change rest ih =>
    obtain ⟨edit, edits⟩ := List.forall_mem_cons.1 edits
    intro draft
    -- The rest does not see repetitions either, so they are dropped and put back in between.
    calc (inTurn rest (change draft.pruned)).pruned
        = (inTurn rest (change draft.pruned).pruned).pruned := (ih edits _).symm
      _ = (inTurn rest (change draft).pruned).pruned := by rw [edit.blind draft]
      _ = (inTurn rest (change draft)).pruned := ih edits _

theorem inTurn_append (earlier later : List (Draft → Draft)) (draft : Draft) :
    inTurn (earlier ++ later) draft = inTurn later (inTurn earlier draft) :=
  List.foldl_append

end Draft

namespace Contract

theorem reviseBy_eq_inTurn (contract : Contract) (edits : List Edit) :
    contract.reviseBy edits = contract.revise (Draft.inTurn (edits.map fun edit draft => draft.applyEdit edit)) := by
  simp only [reviseBy, revise, Draft.inTurn, Draft.applyEdits, List.foldl_map]

/-- A second change finds the draft of the first one, less its repetitions. -/
theorem revise_revise {contract once : Contract} {first second : Draft → Draft}
    (blind : Draft.BlindToRepetitions second) (revised : contract.revise first = .ok once) :
    once.revise second = contract.revise fun draft => second (first draft) := by
  have frozen : once.toDraft = (first contract.toDraft).pruned := (Draft.freeze_eq_ok_iff.1 revised).2
  rw [revise, frozen, blind.freeze_eq, revise]

/-- When a revision has been accepted, a further one gives the contract, or the error, that both sets of
edits give at once. -/
theorem stepwise_revision (contract : Contract) :
    (∀ (earlier later : List (Draft → Draft)) (once : Contract), (∀ change ∈ later, Draft.IsEdit change) →
      contract.revise (Draft.inTurn earlier) = .ok once →
      once.revise (Draft.inTurn later) = contract.revise (Draft.inTurn (earlier ++ later))) ∧
    ∀ (earlier later : List Edit) (once : Contract), contract.reviseBy earlier = .ok once →
      once.reviseBy later = contract.reviseBy (earlier ++ later) := by
  have general : ∀ (earlier later : List (Draft → Draft)) (once : Contract), (∀ change ∈ later, Draft.IsEdit change) →
      contract.revise (Draft.inTurn earlier) = .ok once →
      once.revise (Draft.inTurn later) = contract.revise (Draft.inTurn (earlier ++ later)) := by
    intro earlier later once edits revised
    rw [revise_revise (Draft.blind_inTurn edits) revised]
    congr 1
    funext draft
    rw [Draft.inTurn_append]
  refine ⟨general, ?_⟩
  intro earlier later once revised
  rw [reviseBy_eq_inTurn] at revised
  rw [reviseBy_eq_inTurn, reviseBy_eq_inTurn, List.map_append]
  exact general _ _ once (List.forall_mem_map.2 fun edit _ => .edit edit) revised

section

/-- A repeated declaration, a new one and a change. -/
def extending : List Edit :=
  [.push "get", .declare "add" .empty, .spec "put" (.allowCall "get"), .push "put"]

/-- A function goes and comes back at the end, and the others are declared again. -/
def reordering : List Edit :=
  [.undeclare "put", .push "add", .declare "get" .empty, .push "put"]

/-- Two declared functions lose their specifications. -/
def stripping : List Edit :=
  [.undeclare "put", .push "put", .dropSpec "put", .dropSpec "add"]

theorem stepwise_revision_of_untangled :
    ∃ once, untangled.reviseBy extending = .ok once ∧
      (once.reviseBy reordering).map (·.declaredFunctions) = .ok ["get", "add", "put"] ∧
      once.reviseBy reordering = untangled.reviseBy (extending ++ reordering) ∧
      once.reviseBy stripping = .error (.missingSpec "add") ∧
      untangled.reviseBy (extending ++ stripping) = .error (.missingSpec "add") ∧
      once.revise (Draft.inTurn [fun draft => { draft with specs := draft.specs.modify "put" fun _ => .empty }]) =
        untangled.revise (Draft.inTurn (extending.map (fun edit draft => draft.applyEdit edit) ++
          [fun draft => { draft with specs := draft.specs.modify "put" fun _ => .empty }])) := by
  obtain ⟨once, revised⟩ : ∃ once, untangled.reviseBy extending = .ok once := ⟨_, rfl⟩
  obtain ⟨general, listed⟩ := stepwise_revision untangled
  have refused : untangled.reviseBy (extending ++ stripping) = .error (.missingSpec "add") := rfl
  have reordered : (untangled.reviseBy (extending ++ reordering)).map (·.declaredFunctions) =
      .ok ["get", "add", "put"] := rfl
  have changes : ∀ change ∈ [fun draft : Draft => { draft with specs := draft.specs.modify "put" fun _ => .empty }],
      Draft.IsEdit change := by
    intro change member
    rw [List.mem_singleton.1 member]
    exact .changeSpec "put" fun _ => .empty
  refine ⟨once, revised, ?_, listed _ _ once revised, ?_, refused, general _ _ once changes ?_⟩
  · rw [listed _ _ once revised]
    exact reordered
  · rw [listed _ _ once revised]
    exact refused
  · rwa [← reviseBy_eq_inTurn]

end

end Contract

end CallPolicy
