import CallPolicy.Proofs.Policy.Paths
import CallPolicy.Proofs.Policy.Steps
import CallPolicy.Proofs.Policy.Validation

/-! What attaching a predicate does to the contract that is described.

A description is an untyped tree and a contract is a typed record, and either can be edited. Editing
the section of a function and then building comes to the same as building and then revising the
specification, if the section still has what the schema asks for and reads as the revised one.
-/

set_option autoImplicit false

namespace CallPolicy

/-- Change the values of one key in a list of entries. -/
def Keyed.revise {α : Type} (key : String) (change : α → α) (entries : List (String × α)) : List (String × α) :=
  entries.map fun entry => if entry.1 = key then (entry.1, change entry.2) else entry

namespace Keyed

variable {α : Type}

theorem look_revise (key other : String) (change : α → α) (entries : List (String × α)) :
    look key (revise other change entries) =
      if key = other then (look other entries).map change else look key entries := by
  induction entries with
  | nil => simp [revise, look]
  | cons entry rest ih =>
    obtain ⟨own, value⟩ := entry
    have head : revise other change ((own, value) :: rest) =
        (own, if own = other then change value else value) :: revise other change rest := by
      rw [revise, List.map_cons, ← revise]
      split <;> rfl
    simp only [head, look, ih]
    grind

theorem ofList_revise (key : String) (change : α → α) (entries : List (String × α)) :
    ofList (revise key change entries) = (ofList entries).modify key change := by
  refine ext_get? fun other => ?_
  have reversed : (revise key change entries).reverse = revise key change entries.reverse := List.map_reverse.symm
  rw [get?_modify, get?_ofList, get?_ofList, get?_ofList, reversed, look_revise]

end Keyed

/-! ### Another section in place of one -/

theorem Descriptor.isOf_map_iff {entries : List (String × Descriptor)} {kind : Kind} :
    (Descriptor.map entries).IsOf kind ↔ kind = .map := by
  constructor
  · intro isOf
    cases isOf with
    | map => rfl
    | predicate isPredicate =>
      obtain ⟨_, denotes⟩ := isPredicate
      cases denotes
  · rintro rfl
    exact .map entries

theorem Description.get?_set (description : Description) (key other : String) (value : Descriptor) :
    (description.set other value).get? key = if key = other then some value else description.get? key :=
  Keyed.look_put key other value description.entries

variable {schema : Schema} {description : Description} {function : String} {entries edited : List (String × Descriptor)}

namespace Schema

theorem meets_map_iff {kind : Kind} : Meets (some (.map entries)) kind ↔ kind = .map := by
  constructor
  · rintro ⟨_, ⟨⟩, isOf⟩
    exact Descriptor.isOf_map_iff.1 isOf
  · intro isMap
    exact ⟨_, rfl, Descriptor.isOf_map_iff.2 isMap⟩

/-- A map has the kind of any other map. -/
theorem MeetsAll.set (met : MeetsAll schema.globals description.get?) (given : description.get? function = some (.map entries))
    (edited : List (String × Descriptor)) : MeetsAll schema.globals (description.set function (.map edited)).get? := by
  intro key kind required
  have before := met key kind required
  rw [Description.get?_set]
  split
  · next same =>
    rw [same, given, meets_map_iff] at before
    exact meets_map_iff.2 before
  · exact before

/-- The list of functions is no section. -/
theorem Lists.set {items : List Descriptor} (listed : Lists description items)
    (given : description.get? function = some (.map entries)) (edited : List (String × Descriptor)) :
    Lists (description.set function (.map edited)) items := by
  have different : functionsKey ≠ function := by
    rintro rfl
    cases listed.of_given given
  rwa [Lists, Description.get?_set, if_neg different]

theorem Accepts.set_other {item : Descriptor} (accepted : schema.Accepts description item)
    (different : item ≠ .text function) (value : Descriptor) : schema.Accepts (description.set function value) item := by
  obtain ⟨name, own, rfl, given, met⟩ := accepted
  have other : name ≠ function := fun same => different (congrArg _ same)
  exact ⟨name, own, rfl, by rw [Description.get?_set, if_neg other, given], met⟩

/-- A section may stand in another one's place, if it has what is asked of functions. -/
theorem Conforms.set (conforms : schema.Conforms description) (given : description.get? function = some (.map entries))
    (met : MeetsAll schema.functions (Keyed.look · entries) → MeetsAll schema.functions (Keyed.look · edited)) :
    schema.Conforms (description.set function (.map edited)) := by
  obtain ⟨globals, items, listed, accepted⟩ := conforms
  refine ⟨globals.set given edited, items, listed.set given edited, fun item member => ?_⟩
  by_cases own : item = .text function
  · subst own
    exact ⟨function, edited, rfl, by rw [Description.get?_set, if_pos rfl], met ((accepted _ member).met given)⟩
  · exact (accepted item member).set_other own _

end Schema

namespace Description

/-- Where a list of texts is read there is no section, so the same texts are read. -/
theorem texts_set {path key : String} {names : List String} (given : description.get? function = some (.map entries))
    (read : texts path (description.get? key) = .ok names) :
    texts path ((description.set function (.map edited)).get? key) = .ok names := by
  have different : key ≠ function := by
    rintro rfl
    rw [given] at read
    cases read
  rwa [get?_set, if_neg different]

/-- A section under the key of the mode is no Boolean, before and after. -/
theorem raiseOnViolation_set (given : description.get? function = some (.map entries)) :
    (description.set function (.map edited)).raiseOnViolation = description.raiseOnViolation := by
  rw [raiseOnViolation, raiseOnViolation, get?_set]
  by_cases same : "raise_on_contract_exception" = function
  · rw [if_pos same, same, given]
  · rw [if_neg same]

theorem section?_set (description : Description) (name function : String) (edited : List (String × Descriptor)) :
    (description.set function (.map edited)).section? name =
      if name = function then some edited else description.section? name := by
  rw [section?, section?, get?_set]
  split <;> rfl

/-- The listed functions are read as before, but for the one whose section is edited. -/
theorem specs_set {names : List String} {specs : List (String × FunctionSpec)} {change : FunctionSpec → FunctionSpec}
    (given : description.get? function = some (.map entries))
    (specified : ∀ spec, functionSpec function entries = .ok spec → functionSpec function edited = .ok (change spec))
    (read : names.mapM description.listedSpec = .ok specs) :
    names.mapM (description.set function (.map edited)).listedSpec = .ok (Keyed.revise function change specs) := by
  rw [mapM_eq_ok_iff] at read ⊢
  refine List.forall₂_map_right_iff.2 (read.imp fun name listed here => ?_)
  obtain ⟨own, found, made, rfl⟩ := listedSpec_eq_ok_iff.1 here
  rw [listedSpec_eq_ok_iff, section?_set]
  by_cases same : listed.1 = function
  · subst same
    rw [Schema.section?_eq_some_iff, given] at found
    cases found
    rw [if_pos rfl, if_pos rfl]
    exact ⟨edited, rfl, specified _ made, rfl⟩
  · rw [if_neg same, if_neg same]
    exact ⟨own, found, made, rfl⟩

end Description

namespace Contract

variable {contract : Contract}

/-- The edit of a description was possible, and what it describes now is the contract after one revision
of a specification, with nothing else changed. -/
structure RevisedBy (contract : Contract) (schema : Schema) (function : String) (edit : SpecEdit)
    (outcome : Description × Bool) (revised : Contract) : Prop where
  possible : outcome.2 = true
  built : ofDescription schema outcome.1 = .ok revised
  revision : contract.reviseBy [.spec function edit] = .ok revised
  unchanged : revised.toDraft =
    { contract.toDraft with specs := contract.specs.modify function fun spec => edit.apply spec }

theorem revisedBy_of_section {edit : SpecEdit} (built : ofDescription schema description = .ok contract)
    (given : description.get? function = some (.map entries))
    (met : Schema.MeetsAll schema.functions (Keyed.look · entries) → Schema.MeetsAll schema.functions (Keyed.look · edited))
    (specified : ∀ spec, Description.functionSpec function entries = .ok spec →
      Description.functionSpec function edited = .ok (edit.apply spec)) :
    ∃ revised, contract.RevisedBy schema function edit (description.set function (.map edited), true) revised := by
  obtain ⟨valid, draft, drafted, frozen⟩ := ofDescription_eq_ok_iff.1 built
  obtain ⟨specifies, contractSame⟩ := Draft.freeze_eq_ok_iff.1 frozen
  obtain ⟨declared, ⟨specs, specsRead, specsSame⟩, ⟨imports, importsRead, importsSame⟩,
    ⟨calls, callsRead, callsSame⟩, raises⟩ := Description.draft_eq_ok_iff.1 drafted
  have conforms := (Schema.validate_settles schema description).ok_iff.1 valid
  have editedValid : schema.validate (description.set function (.map edited)) = .ok () :=
    (Schema.validate_settles schema _).ok_iff.2 (conforms.set given met)
  have editedDraft : (description.set function (.map edited)).draft = .ok (draft.applyEdit (.spec function edit)) := by
    refine Description.draft_eq_ok_iff.2 ⟨Description.texts_set given declared,
      ⟨_, Description.specs_set given specified specsRead, ?_⟩,
      ⟨imports, Description.texts_set given importsRead, importsSame⟩,
      ⟨calls, Description.texts_set given callsRead, callsSame⟩,
      raises.trans (Description.raiseOnViolation_set given).symm⟩
    rw [Keyed.ofList_revise, ← specsSame]
    rfl
  obtain ⟨revised, revisedFrozen⟩ := Draft.exists_freeze (Draft.specifies_applyEdit specifies function edit)
  have unchanged : revised.toDraft =
      { contract.toDraft with specs := contract.specs.modify function fun spec => edit.apply spec } := by
    rw [(Draft.freeze_eq_ok_iff.1 revisedFrozen).2, contractSame]
    rfl
  exact ⟨revised, rfl, ofDescription_eq_ok_iff.2 ⟨editedValid, _, editedDraft, revisedFrozen⟩,
    reviseBy_spec_eq_ok_iff.2 unchanged, unchanged⟩

/-- A declared function has a section, and its specification is read from it. -/
theorem section_of_declared (built : ofDescription schema description = .ok contract)
    (declared : function ∈ contract.declaredFunctions) :
    ∃ entries spec, description.get? function = some (.map entries) ∧
      Description.functionSpec function entries = .ok spec := by
  obtain ⟨_, draft, drafted, frozen⟩ := ofDescription_eq_ok_iff.1 built
  obtain ⟨_, contractSame⟩ := Draft.freeze_eq_ok_iff.1 frozen
  obtain ⟨_, ⟨specs, specsRead, _⟩, _⟩ := Description.draft_eq_ok_iff.1 drafted
  have listed : function ∈ draft.declaredFunctions := by
    rw [contractSame] at declared
    exact mem_distinct.1 declared
  obtain ⟨entry, here⟩ := exists_of_mapM_eq_ok specsRead function listed
  obtain ⟨entries, found, made, _⟩ := Description.listedSpec_eq_ok_iff.1 here
  exact ⟨entries, entry.2, (Schema.section?_eq_some_iff _ _ _).1 found, made⟩

end Contract

/-! ### Sections with a predicate attached -/

namespace Description

open Descriptor

variable {given : List (String × Descriptor)} {spec : FunctionSpec} {parameter : String} {test : Predicate}

theorem mapAt?_eq_some_iff {key : String} {found : List (String × Descriptor)} :
    mapAt? key entries = some found ↔
      Keyed.look key entries = some (.map found) ∨ Keyed.look key entries = none ∧ found = [] := by
  rw [mapAt?]
  cases Keyed.look key entries with
  | none => simp [eq_comm]
  | some value => cases value <;> simp [map?]

theorem mapAt?_of_section (given : description.get? function = some (.map entries)) :
    mapAt? function description.entries = some entries :=
  mapAt?_eq_some_iff.2 (.inl given)

theorem parameters_put {made : Keyed Predicate} (ordered : Keyed.Ordered given)
    (read : parameters function (some (.map given)) = .ok made) (parameter : String) (test : Predicate) :
    parameters function (some (.map (Keyed.put parameter (.predicate test) given))) =
      .ok (made.insert parameter test) := by
  have before := parameters_decides function (some (.map given))
  have after := parameters_decides function (some (.map (Keyed.put parameter (.predicate test) given)))
  rw [read] at before
  generalize parameters function (some (.map (Keyed.put parameter (.predicate test) given))) = result at after
  cases before with
  | built fit described =>
    cases after with
    | built _ editedDescribed =>
      refine congrArg Except.ok (Keyed.ext_get? fun name => Option.ext fun own => ?_)
      have orderedToo : Keyed.Ordered (Keyed.put parameter (.predicate test) given) := Keyed.ordered_put ordered
      have before := described name own
      have after := editedDescribed name own
      simp only [GivesParameter, Option.some.injEq, Descriptor.map.injEq, exists_and_left, exists_eq_left',
        Keyed.look_reverse ordered, Keyed.look_reverse orderedToo, Keyed.look_put] at before after
      rw [after, Keyed.get?_insert]
      split
      · simp [denotes_iff, predicate?]
      · exact before.symm
    | invalid misfit =>
      refine absurd ?_ misfit
      rintro _ ⟨⟩
      refine ⟨_, rfl, fun entry member => ?_⟩
      obtain ⟨_, same, tests⟩ := fit _ rfl
      cases same
      rcases Keyed.mem_put member with rfl | member
      · exact ⟨test, .attached test⟩
      · exact tests entry member

/-- Parameters can only be read from a map, or where nothing is. -/
theorem mapAt?_of_parameters {made : Keyed Predicate} (read : parameters function (Keyed.look "params" entries) = .ok made) :
    ∃ given, mapAt? "params" entries = some given ∧ parameters function (some (.map given)) = .ok made := by
  rw [mapAt?]
  cases there : Keyed.look "params" entries with
  | none =>
    rw [there] at read
    exact ⟨[], rfl, read⟩
  | some value =>
    rw [there] at read
    cases value with
    | map given => exact ⟨given, rfl, read⟩
    | _ => cases read

theorem functionSpec_parameter (made : functionSpec function entries = .ok spec)
    (opened : mapAt? "params" entries = some given) (ordered : Keyed.Ordered given) (parameter : String) (test : Predicate) :
    functionSpec function (Keyed.put "params" (.map (Keyed.put parameter (.predicate test) given)) entries) =
      .ok { spec with parameters := spec.parameters.insert parameter test } := by
  obtain ⟨parameters, returns, seconds, calls, callers⟩ := functionSpec_eq_ok_iff.1 made
  obtain ⟨own, ownOpened, parameters⟩ := mapAt?_of_parameters parameters
  cases opened.symm.trans ownOpened
  simp only [functionSpec_eq_ok_iff, Keyed.look_put, String.reduceEq, if_false, if_true]
  exact ⟨parameters_put ordered parameters parameter test, returns, seconds, calls, callers⟩

theorem functionSpec_returns (made : functionSpec function entries = .ok spec) (test : Predicate) :
    functionSpec function (Keyed.put "returns" (.predicate test) entries) = .ok { spec with returns := test } := by
  obtain ⟨parameters, _, seconds, calls, callers⟩ := functionSpec_eq_ok_iff.1 made
  simp only [functionSpec_eq_ok_iff, Keyed.look_put, String.reduceEq, if_false, if_true]
  exact ⟨parameters, rfl, seconds, calls, callers⟩

/-- What returns is read from a predicate, or where nothing is. -/
theorem isPredicate_of_returns (read : returns function (Keyed.look "returns" entries) = .ok test) :
    ∀ value ∈ Keyed.look "returns" entries, value.IsPredicate := by
  have decides := returns_decides function (Keyed.look "returns" entries)
  rw [read] at decides
  cases decides with
  | built fit _ => exact fit

end Description

namespace Schema

variable {required : Keyed Kind} {key : String}

/-- Where one value changes, the others are still as required. -/
theorem MeetsAll.put {value : Descriptor} (met : MeetsAll required (Keyed.look · entries))
    (here : ∀ kind, required.get? key = some kind → Meets (Keyed.look key entries) kind → value.IsOf kind) :
    MeetsAll required (Keyed.look · (Keyed.put key value entries)) := by
  intro other kind requiredHere
  have before := met other kind requiredHere
  dsimp only at before ⊢
  rw [Keyed.look_put]
  split
  · next same =>
    subst same
    exact ⟨value, rfl, here kind requiredHere before⟩
  · exact before

theorem MeetsAll.put_map {given : List (String × Descriptor)} (met : MeetsAll required (Keyed.look · entries))
    (opened : Description.mapAt? key entries = some given) (edited : List (String × Descriptor)) :
    MeetsAll required (Keyed.look · (Keyed.put key (.map edited) entries)) := by
  refine met.put fun kind _ before => ?_
  rcases Description.mapAt?_eq_some_iff.1 opened with there | ⟨missing, _⟩
  · rw [there, meets_map_iff] at before
    exact Descriptor.isOf_map_iff.2 before
  · rw [missing] at before
    obtain ⟨_, ⟨⟩, _⟩ := before

/-- A predicate that is attached is no name of one, so a key that must have a string cannot have it. -/
theorem MeetsAll.put_predicate (met : MeetsAll required (Keyed.look · entries))
    (given : ∀ value ∈ Keyed.look key entries, value.IsPredicate) (noString : required.get? key ≠ some .string)
    (test : Predicate) : MeetsAll required (Keyed.look · (Keyed.put key (.predicate test) entries)) := by
  refine met.put fun kind requiredHere before => ?_
  obtain ⟨value, there, isOf⟩ := before
  obtain ⟨own, denotes⟩ := given value there
  cases isOf with
  | predicate _ => exact .predicate ⟨test, .attached test⟩
  | string _ => exact absurd requiredHere noString
  | _ => cases denotes

end Schema

/-! ### Both edits -/

namespace Contract

variable {contract : Contract}

theorem revisedBy_setParameter (sorted : description.Sorted) (built : ofDescription schema description = .ok contract)
    (declared : function ∈ contract.declaredFunctions) (parameter : String) (test : Predicate) :
    ∃ revised, contract.RevisedBy schema function (.parameter parameter test)
      (description.setParameter function parameter test) revised := by
  obtain ⟨entries, spec, given, made⟩ := section_of_declared built declared
  obtain ⟨inner, opened, _⟩ := Description.mapAt?_of_parameters (Description.functionSpec_eq_ok_iff.1 made).1
  have entriesSorted : (Descriptor.map entries).Sorted := sorted.under given
  have ordered : Keyed.Ordered inner := by
    rcases Description.mapAt?_eq_some_iff.1 opened with there | ⟨_, rfl⟩
    · exact (entriesSorted.under there).ordered
    · exact .nil
  simp only [Description.setParameter, Description.mapAt?_of_section given, opened]
  exact revisedBy_of_section built given (fun met => met.put_map opened _)
    fun spec made => Description.functionSpec_parameter made opened ordered parameter test

theorem revisedBy_setReturns (built : ofDescription schema description = .ok contract)
    (declared : function ∈ contract.declaredFunctions) (noString : schema.functions.get? "returns" ≠ some .string)
    (test : Predicate) :
    ∃ revised, contract.RevisedBy schema function (.returns test) (description.setReturns function test) revised := by
  obtain ⟨entries, spec, given, made⟩ := section_of_declared built declared
  have isPredicate := Description.isPredicate_of_returns (Description.functionSpec_eq_ok_iff.1 made).2.1
  simp only [Description.setReturns, Description.mapAt?_of_section given]
  exact revisedBy_of_section built given (fun met => met.put_predicate isPredicate noString test)
    fun spec made => Description.functionSpec_returns made test

/-- A declared function is listed. -/
theorem listed_of_declared (built : ofDescription schema description = .ok contract)
    (declared : function ∈ contract.declaredFunctions) :
    ∃ items, Schema.Lists description items ∧ .text function ∈ items := by
  obtain ⟨_, draft, drafted, frozen⟩ := ofDescription_eq_ok_iff.1 built
  rw [(Draft.freeze_eq_ok_iff.1 frozen).2, mem_distinct] at declared
  have decides := Description.texts_decides Schema.functionsKey (description.get? Schema.functionsKey)
  rw [(Description.draft_eq_ok_iff.1 drafted).1] at decides
  cases decides with
  | built _ lists =>
    refine ⟨draft.declaredFunctions.map .text, ?_, List.mem_map_of_mem declared⟩
    rw [Schema.Lists]
    cases given : description.get? Schema.functionsKey with
    | none =>
      rw [given] at lists
      exact congrArg (List.map Descriptor.text) lists
    | some value =>
      rw [given] at lists
      exact lists

/-- Where the schema asks for a string, a contract may name the predicate of what is returned, but
after another one is attached the description is refused. -/
theorem refused_of_setReturns (built : ofDescription schema description = .ok contract)
    (declared : function ∈ contract.declaredFunctions) (isString : schema.functions.get? "returns" = some .string)
    (test : Predicate) : ofDescription schema (description.setReturns function test).1 =
      .error (.functionKey function "returns" .string (some .predicate)) := by
  obtain ⟨entries, _, given, _⟩ := section_of_declared built declared
  obtain ⟨items, listed, member⟩ := listed_of_declared built declared
  obtain ⟨globals, others, othersListed, accepted⟩ :=
    (Schema.validate_settles schema description).ok_iff.1 (ofDescription_eq_ok_iff.1 built).1
  cases listed.unique othersListed
  have met := (accepted _ member).met given
  have first : Schema.FirstUnmet schema.functions (Keyed.look · (Keyed.put "returns" (.predicate test) entries)) "returns"
      .string (some .predicate) := by
    refine ⟨isString, ?_, ?_, fun key kind required less => ?_⟩
    · rintro ⟨value, there, isOf⟩
      rw [Keyed.look_put, if_pos rfl] at there
      cases there
      cases isOf
    · rw [Keyed.look_put, if_pos rfl]
      rfl
    · have different : key ≠ "returns" := by
        rintro rfl
        exact absurd less (List.lt_irrefl _)
      rw [Keyed.look_put, if_neg different]
      exact met key kind required
  -- What is listed before the function is accepted as before.
  obtain ⟨earlier, later, rfl, fresh⟩ := List.eq_append_cons_of_mem member
  have before : ∀ other ∈ earlier, schema.Accepts
      (description.set function (.map (Keyed.put "returns" (.predicate test) entries))) other := by
    intro other otherMember
    refine (accepted other (List.mem_append_left _ otherMember)).set_other ?_ _
    rintro rfl
    exact fresh otherMember
  simp only [Description.setReturns, Description.mapAt?_of_section given]
  refine ofDescription_of_invalid (((Schema.validate_settles schema _).error_iff _).2 ?_)
  exact .listed (globals.set given _) (listed.set given _) before
    (.key (by rw [Description.get?_set, if_pos rfl]) first)

end Contract

/-- Attaching a predicate is refused and changes nothing, or it changes the one entry on its path and
makes the maps that are missing. For a declared function it is never refused, and the edited
description is that of the contract with the predicate in its specification. Only where a schema asks
for a string is there no contract any more once a predicate is attached to what is returned. -/
theorem attaching_revises (description : Description) (function parameter : String) (test : Predicate) :
    description.Attaches [function, "params", parameter] test (description.setParameter function parameter test) ∧
    description.Attaches [function, "returns"] test (description.setReturns function test) ∧
    ∀ (schema : Schema) (contract : Contract), description.Made →
      Contract.ofDescription schema description = .ok contract → function ∈ contract.declaredFunctions →
      (∃ revised, contract.RevisedBy schema function (.parameter parameter test)
        (description.setParameter function parameter test) revised) ∧
      (schema.functions.get? "returns" ≠ some .string →
        ∃ revised, contract.RevisedBy schema function (.returns test) (description.setReturns function test) revised) ∧
      (schema.functions.get? "returns" = some .string →
        Contract.ofDescription schema (description.setReturns function test).1 =
          .error (.functionKey function "returns" .string (some .predicate))) := by
  refine ⟨?_, ?_, fun schema contract made built declared => ⟨?_, fun noString => ?_, fun isString => ?_⟩⟩
  · rw [Description.setParameter_eq_attach]
    exact description.attach_attaches function _ test
  · rw [Description.setReturns_eq_attach]
    exact description.attach_attaches function _ test
  · exact Contract.revisedBy_setParameter made.sorted built declared parameter test
  · exact Contract.revisedBy_setReturns built declared noString test
  · exact Contract.refused_of_setReturns built declared isString test

section

/-- A schema that asks for a predicate of what functions return. -/
def returnsSchema : Schema :=
  ⟨"returns", .empty, .ofList [("returns", .predicate)]⟩

/-- A function that is listed twice and has no parameters yet, and another one. -/
def attachable : Description where
  entries :=
    [("f", .map [("returns", .text "int")]), ("functions", .list [.text "f", .text "g", .text "f"]),
      ("g", .map [("returns", .text "any")])]

theorem attachable_made : attachable.Made := by
  have sections : ∀ name, (Descriptor.map [("returns", .text name)]).Sorted := fun name =>
    .map (List.pairwise_singleton _ _) (List.forall_mem_singleton.2 (.text name))
  have texts : ∀ names : List String, (Descriptor.list (names.map .text)).Sorted := fun names =>
    .list (List.forall_mem_map.2 fun name _ => .text name)
  exact ((Description.Made.empty.set "f" (sections "int")).set "functions" (texts ["f", "g", "f"])).set "g" (sections "any")

theorem attaching_of_attachable :
    ∃ contract, Contract.ofDescription returnsSchema attachable = .ok contract ∧
    (∃ revised, Contract.ofDescription returnsSchema (attachable.setParameter "f" "x" .string).1 = .ok revised ∧
      (revised.specs.get? "f").bind (·.parameters.get? "x") = some .string) ∧
    ∃ revised, Contract.ofDescription returnsSchema (attachable.setReturns "f" .string).1 = .ok revised ∧
      (revised.specs.get? "f").map (·.returns) = some .string := by
  have declares : (Contract.ofDescription returnsSchema attachable).toOption.map (·.declaredFunctions) = some ["f", "g"] := by
    decide +kernel
  cases built : Contract.ofDescription returnsSchema attachable with
  | error error =>
    rw [built] at declares
    cases declares
  | ok contract =>
    rw [built] at declares
    have listed : contract.declaredFunctions = ["f", "g"] := Option.some.inj declares
    have declared : "f" ∈ contract.declaredFunctions := listed ▸ List.mem_cons_self
    obtain ⟨spec, specified⟩ := (Keyed.contains_iff _ _).1 (contract.declared_specified "f" declared)
    have noString : returnsSchema.functions.get? "returns" ≠ some .string := by decide +kernel
    obtain ⟨_, _, revising⟩ := attaching_revises attachable "f" "x" .string
    obtain ⟨⟨first, firstRevised⟩, returning, _⟩ := revising returnsSchema contract attachable_made built declared
    obtain ⟨second, secondRevised⟩ := returning noString
    refine ⟨contract, rfl, ⟨first, firstRevised.built, ?_⟩, second, secondRevised.built, ?_⟩
    · rw [firstRevised.unchanged, Keyed.get?_modify, if_pos rfl, specified]
      exact (Keyed.get?_insert _ _ _ _).trans (if_pos rfl)
    · rw [secondRevised.unchanged, Keyed.get?_modify, if_pos rfl, specified]
      rfl

end

end CallPolicy
