import CallPolicy.Policy.Building
import CallPolicy.Policy.Edit
import CallPolicy.Proofs.Policy.Freezing
import Mathlib.Data.List.Forall2

/-! When the steps of building succeed, and what they then make.

Each step has one lemma that says all of what its success takes. A proof about building takes these
apart, and need not look into the steps.
-/

set_option autoImplicit false

namespace CallPolicy

/-! ### Steps in general -/

theorem bind_eq_ok_iff {ε α β : Type} {step : Except ε α} {next : α → Except ε β} {result : β} :
    step >>= next = .ok result ↔ ∃ value, step = .ok value ∧ next value = .ok result := by
  cases step with
  | error error => exact iff_of_false (by rintro ⟨⟩) (by rintro ⟨_, ⟨⟩, _⟩)
  | ok value => simp [Bind.bind, Except.bind]

theorem mapM_eq_ok_iff {ε α β : Type} {step : α → Except ε β} {items : List α} {results : List β} :
    items.mapM step = .ok results ↔ List.Forall₂ (fun item result => step item = .ok result) items results := by
  induction items generalizing results with
  | nil => simp [pure, Except.pure, eq_comm]
  | cons item rest ih =>
    simp only [List.mapM_cons, bind_eq_ok_iff, ih, List.forall₂_cons_left_iff]
    constructor
    · rintro ⟨result, here, others, later, same⟩
      cases same
      exact ⟨result, others, here, later, rfl⟩
    · rintro ⟨result, others, here, later, rfl⟩
      exact ⟨result, here, others, later, rfl⟩

theorem exists_of_mapM_eq_ok {ε α β : Type} {step : α → Except ε β} {items : List α} {results : List β}
    (done : items.mapM step = .ok results) : ∀ item ∈ items, ∃ result, step item = .ok result :=
  ((List.forall₂_and_left _ _).1 ((mapM_eq_ok_iff.1 done).imp fun _ result here => ⟨⟨result, here⟩, here⟩)).1

/-! ### Reading -/

namespace Description

variable {description : Description}

theorem functionSpec_eq_ok_iff {function : String} {entries : List (String × Descriptor)} {spec : FunctionSpec} :
    functionSpec function entries = .ok spec ↔
      parameters function (Keyed.look "params" entries) = .ok spec.parameters ∧
      returns function (Keyed.look "returns" entries) = .ok spec.returns ∧
      maxRuntimeSeconds function (Keyed.look "max_runtime_seconds" entries) = .ok spec.maxRuntimeSeconds ∧
      (∃ calls, texts (function ++ ".allowable_calls") (Keyed.look "allowable_calls" entries) = .ok calls ∧
        spec.allowedCalls = .ofList calls) ∧
      ∃ callers, texts (function ++ ".allowed_callers") (Keyed.look "allowed_callers" entries) = .ok callers ∧
        spec.allowedCallers = .ofList callers := by
  simp only [functionSpec, bind_eq_ok_iff]
  constructor
  · rintro ⟨_, parameters, _, returns, _, seconds, calls, callsRead, callers, callersRead, same⟩
    cases same
    exact ⟨parameters, returns, seconds, ⟨calls, callsRead, rfl⟩, callers, callersRead, rfl⟩
  · rintro ⟨parameters, returns, seconds, ⟨calls, callsRead, callsSame⟩, callers, callersRead, callersSame⟩
    refine ⟨_, parameters, _, returns, _, seconds, calls, callsRead, callers, callersRead, ?_⟩
    rw [← callsSame, ← callersSame]
    rfl

theorem listedSpec_eq_ok_iff {name : String} {listed : String × FunctionSpec} :
    description.listedSpec name = .ok listed ↔ ∃ entries, description.section? name = some entries ∧
      functionSpec name entries = .ok listed.2 ∧ listed.1 = name := by
  obtain ⟨own, spec⟩ := listed
  rw [listedSpec]
  cases description.section? name with
  | none => exact iff_of_false (by rintro ⟨⟩) (by rintro ⟨_, ⟨⟩, _⟩)
  | some entries =>
    simp only [Option.some.injEq, exists_eq_left']
    cases functionSpec name entries with
    | error error => exact iff_of_false (by rintro ⟨⟩) (by rintro ⟨⟨⟩, _⟩)
    | ok spec => simp [Except.map, and_comm, eq_comm]

theorem draft_eq_ok_iff {draft : Draft} :
    description.draft = .ok draft ↔
      texts Schema.functionsKey (description.get? Schema.functionsKey) = .ok draft.declaredFunctions ∧
      (∃ specs, draft.declaredFunctions.mapM description.listedSpec = .ok specs ∧ draft.specs = .ofList specs) ∧
      (∃ imports, texts "allowable_imports" (description.get? "allowable_imports") = .ok imports ∧
        draft.allowedImports = .ofList imports) ∧
      (∃ calls, texts "global_allowed_calls" (description.get? "global_allowed_calls") = .ok calls ∧
        draft.globalAllowedCalls = .ofList calls) ∧
      draft.raiseOnViolation = description.raiseOnViolation := by
  simp only [Description.draft, bind_eq_ok_iff]
  constructor
  · rintro ⟨_, declared, specs, specsRead, imports, importsRead, calls, callsRead, same⟩
    cases same
    exact ⟨declared, ⟨specs, specsRead, rfl⟩, ⟨imports, importsRead, rfl⟩, ⟨calls, callsRead, rfl⟩, rfl⟩
  · rintro ⟨declared, ⟨specs, specsRead, specsSame⟩, ⟨imports, importsRead, importsSame⟩,
      ⟨calls, callsRead, callsSame⟩, raises⟩
    refine ⟨_, declared, specs, specsRead, imports, importsRead, calls, callsRead, ?_⟩
    rw [← specsSame, ← importsSame, ← callsSame, ← raises]
    rfl

end Description

/-! ### Freezing -/

/-- A contract is its draft; there is no more data in it. -/
theorem Contract.ext_toDraft {first second : Contract} (same : first.toDraft = second.toDraft) : first = second := by
  cases first
  cases second
  cases same
  rfl

namespace Draft

variable {draft : Draft} {contract : Contract}

theorem freeze_eq_ok_iff : draft.freeze = .ok contract ↔
    (∀ function ∈ draft.declaredFunctions, draft.Specifies function) ∧
      contract.toDraft = { draft with declaredFunctions := distinct draft.declaredFunctions } := by
  have freezes := draft.freeze_freezes
  generalize draft.freeze = frozen at freezes ⊢
  cases freezes with
  | contract specified declared unchanged =>
    rw [declared.unique (firstOccurrences_distinct _)] at unchanged
    constructor
    · intro same
      cases same
      exact ⟨specified, unchanged⟩
    · rintro ⟨_, same⟩
      exact congrArg Except.ok (Contract.ext_toDraft (unchanged.trans same.symm))
  | refused position _ missing =>
    refine iff_of_false (by rintro ⟨⟩) ?_
    rintro ⟨specified, _⟩
    exact missing (specified _ (position ▸ List.mem_append_cons_self))

theorem exists_freeze (specified : ∀ function ∈ draft.declaredFunctions, draft.Specifies function) :
    ∃ contract, draft.freeze = .ok contract := by
  have freezes := draft.freeze_freezes
  generalize draft.freeze = frozen at freezes ⊢
  cases freezes with
  | contract _ _ _ => exact ⟨_, rfl⟩
  | refused position _ missing => exact absurd (specified _ (position ▸ List.mem_append_cons_self)) missing

/-- An edit of a specification takes none away. -/
theorem specifies_applyEdit (specified : ∀ function ∈ draft.declaredFunctions, draft.Specifies function)
    (function : String) (edit : SpecEdit) :
    ∀ other ∈ (draft.applyEdit (.spec function edit)).declaredFunctions,
      (draft.applyEdit (.spec function edit)).Specifies other := by
  intro other declared
  obtain ⟨spec, found⟩ := specified other declared
  simp only [Specifies, applyEdit, Keyed.get?_modify]
  split
  · next same => exact ⟨edit.apply spec, by rw [← same, found, Option.map_some]⟩
  · exact ⟨spec, found⟩

end Draft

namespace Contract

theorem ofDescription_eq_ok_iff {schema : Schema} {description : Description} {contract : Contract} :
    ofDescription schema description = .ok contract ↔ schema.validate description = .ok () ∧
      ∃ draft, description.draft = .ok draft ∧ draft.freeze = .ok contract := by
  simp only [ofDescription, bind_eq_ok_iff]
  constructor
  · rintro ⟨_, valid, rest⟩
    exact ⟨valid, rest⟩
  · rintro ⟨valid, rest⟩
    exact ⟨(), valid, rest⟩

theorem specifies (contract : Contract) : ∀ function ∈ contract.declaredFunctions, contract.toDraft.Specifies function :=
  fun function declared => (Keyed.contains_iff _ _).1 (contract.declared_specified function declared)

/-- A contract with one specification revised. -/
theorem reviseBy_spec_eq_ok_iff {contract revised : Contract} {function : String} {edit : SpecEdit} :
    contract.reviseBy [.spec function edit] = .ok revised ↔ revised.toDraft =
      { contract.toDraft with specs := contract.specs.modify function fun spec => edit.apply spec } := by
  have specified := Draft.specifies_applyEdit contract.specifies function edit
  have once := distinct_of_nodup contract.declared_nodup
  refine Draft.freeze_eq_ok_iff.trans ((and_iff_right specified).trans ?_)
  simp only [Draft.applyEdits, List.foldl_cons, List.foldl_nil, Draft.applyEdit, once]

theorem exists_reviseBy_spec (contract : Contract) (function : String) (edit : SpecEdit) :
    ∃ revised, contract.reviseBy [.spec function edit] = .ok revised := by
  apply Draft.exists_freeze
  exact Draft.specifies_applyEdit contract.specifies function edit

end Contract

end CallPolicy
