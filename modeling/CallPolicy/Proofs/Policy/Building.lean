import CallPolicy.Policy.Building
import CallPolicy.Proofs.Policy.Freezing
import Mathlib.Data.List.Forall2
import Mathlib.Data.Set.List

/-! Which descriptions make contracts, and what those contracts hold.

A schema asks for keys and kinds; building looks at what the lists and maps under them hold. Both
go by the same list of functions, so building finds nothing wrong but invalid entries. `Decides`
says this of each step of it.
-/

set_option autoImplicit false

namespace CallPolicy

/-! ### What a description says -/

namespace Descriptor

/-- A predicate is attached, or given by its name. -/
inductive Denotes : Descriptor → Predicate → Prop where
  | attached (test : Predicate) : Denotes (.predicate test) test
  | named {name : String} {test : Predicate} (known : Predicate.ofName? name = some test) : Denotes (.text name) test

theorem denotes_iff (value : Descriptor) (test : Predicate) : value.Denotes test ↔ value.predicate? = some test := by
  constructor
  · intro denotes
    cases denotes with
    | attached => rfl
    | named known => exact known
  · intro found
    cases value with
    | predicate own =>
      cases found
      exact .attached test
    | text name => exact .named found
    | _ => cases found

def IsPredicate (value : Descriptor) : Prop :=
  ∃ test, value.Denotes test

def IsPredicateMap (value : Descriptor) : Prop :=
  ∃ entries, value = .map entries ∧ ∀ entry ∈ entries, entry.2.IsPredicate

def IsFiniteNumber (value : Descriptor) : Prop :=
  ∃ seconds, value = .number seconds ∧ seconds.isFinite = true

/-- The texts of a list. Nothing at all lists none. -/
def ListsTexts : Option Descriptor → List String → Prop
  | none, names => names = []
  | some value, names => value = .list (names.map .text)

theorem ListsTexts.unique {value : Option Descriptor} {first second : List String} (one : ListsTexts value first)
    (other : ListsTexts value second) : first = second := by
  cases value with
  | none => exact one.trans other.symm
  | some value =>
    have same : first.map Descriptor.text = second.map Descriptor.text := Descriptor.list.inj (one.symm.trans other)
    exact List.map_injective_iff.2 (fun _ _ => Descriptor.text.inj) same

/-- The predicate that is given to a parameter. Of entries with one name the last counts. -/
def GivesParameter (value : Option Descriptor) (name : String) (test : Predicate) : Prop :=
  ∃ entries given, value = some (.map entries) ∧ Keyed.look name entries.reverse = some given ∧ given.Denotes test

end Descriptor

/-- A set of the texts that are listed. -/
def Names.Collects (set : Names) (value : Option Descriptor) : Prop :=
  ∃ names, Descriptor.ListsTexts value names ∧ ∀ name, name ∈ set.keys ↔ name ∈ names

/-- The section of a function holds nothing that building refuses. -/
structure WellFormedSection (entries : List (String × Descriptor)) : Prop where
  parameters : ∀ value ∈ Keyed.look "params" entries, value.IsPredicateMap
  returns : ∀ value ∈ Keyed.look "returns" entries, value.IsPredicate
  max_runtime_seconds : ∀ value ∈ Keyed.look "max_runtime_seconds" entries, value.IsFiniteNumber
  allowed_calls : ∃ names, Descriptor.ListsTexts (Keyed.look "allowable_calls" entries) names
  allowed_callers : ∃ names, Descriptor.ListsTexts (Keyed.look "allowed_callers" entries) names

/-- The specification is what the section of a function says. -/
structure FunctionSpec.DescribedBy (spec : FunctionSpec) (entries : List (String × Descriptor)) : Prop where
  parameters : ∀ name test, spec.parameters.get? name = some test ↔
    Descriptor.GivesParameter (Keyed.look "params" entries) name test
  returns : (Keyed.look "returns" entries).elim (spec.returns = .any) (·.Denotes spec.returns)
  max_runtime_seconds : (Keyed.look "max_runtime_seconds" entries).elim (spec.maxRuntimeSeconds = .zero)
    (· = .number spec.maxRuntimeSeconds)
  allowed_calls : spec.allowedCalls.Collects (Keyed.look "allowable_calls" entries)
  allowed_callers : spec.allowedCallers.Collects (Keyed.look "allowed_callers" entries)

/-- Nothing in the description is refused, beyond what a schema asks for. -/
structure Description.WellFormed (description : Description) : Prop where
  sections : ∀ names, Descriptor.ListsTexts (description.get? Schema.functionsKey) names →
    ∀ name ∈ names, ∀ entries ∈ description.section? name, WellFormedSection entries
  allowed_imports : ∃ names, Descriptor.ListsTexts (description.get? "allowable_imports") names
  global_allowed_calls : ∃ names, Descriptor.ListsTexts (description.get? "global_allowed_calls") names

/-- The specification is the one in the section of the function. -/
def Description.Specifies (description : Description) (function : String) (spec : FunctionSpec) : Prop :=
  ∃ entries, description.section? function = some entries ∧ spec.DescribedBy entries

/-- The draft is what the description says. -/
structure Draft.DescribedBy (draft : Draft) (description : Description) : Prop where
  declared : Descriptor.ListsTexts (description.get? Schema.functionsKey) draft.declaredFunctions
  specified : ∀ name, name ∈ draft.specs.keys ↔ name ∈ draft.declaredFunctions
  specs : ∀ name spec, draft.specs.get? name = some spec → description.Specifies name spec
  allowed_imports : draft.allowedImports.Collects (description.get? "allowable_imports")
  global_allowed_calls : draft.globalAllowedCalls.Collects (description.get? "global_allowed_calls")
  raise_on_violation : draft.raiseOnViolation = false ↔
    description.get? "raise_on_contract_exception" = some (.bool false)

/-- The contract is what the description says, but declares no function twice. -/
def Contract.DescribedBy (contract : Contract) (description : Description) : Prop :=
  ∃ draft : Draft, draft.DescribedBy description ∧
    FirstOccurrences draft.declaredFunctions contract.declaredFunctions ∧
    contract.toDraft = { draft with declaredFunctions := contract.declaredFunctions }

/-! ### Steps of building -/

/-- A step succeeds exactly where its part of the description fits, and makes what is described
there. Where it fails it has found an invalid entry. -/
inductive Decides {α : Type} (fits : Prop) (described : α → Prop) : Except SchemaError α → Prop where
  | built {value : α} (fit : fits) (made : described value) : Decides fits described (.ok value)
  | invalid {path : String} {defect : EntryDefect} (misfit : ¬ fits) :
      Decides fits described (.error (.invalidEntry path defect))

namespace Decides

variable {α β : Type} {fits later : Prop} {described : α → Prop}

theorem imp {step : Except SchemaError α} {means : α → Prop} (decides : Decides fits described step)
    (same : fits ↔ later) (implies : ∀ value, described value → means value) : Decides later means step := by
  cases decides with
  | built fit made => exact .built (same.1 fit) (implies _ made)
  | invalid misfit => exact .invalid fun fit => misfit (same.2 fit)

theorem map {step : Except SchemaError α} {change : α → β} {means : β → Prop} (decides : Decides fits described step)
    (implies : ∀ value, described value → means (change value)) :
    Decides fits means (step >>= fun value => pure (change value)) := by
  cases decides with
  | built fit made => exact .built fit (implies _ made)
  | invalid misfit => exact .invalid misfit

theorem bind {step : Except SchemaError α} {next : α → Except SchemaError β} {means : β → Prop}
    (first : Decides fits described step) (second : ∀ value, described value → Decides later means (next value)) :
    Decides (fits ∧ later) means (step >>= next) := by
  cases first with
  | @built value fit made =>
    exact (second value made).imp ⟨fun rest => ⟨fit, rest⟩, And.right⟩ fun _ meant => meant
  | invalid misfit => exact .invalid fun both => misfit both.1

theorem mapM {step : α → Except SchemaError β} {fits : α → Prop} {means : α → β → Prop} {items : List α}
    (each : ∀ item ∈ items, Decides (fits item) (means item) (step item)) :
    Decides (∀ item ∈ items, fits item) (List.Forall₂ means items) (items.mapM step) := by
  induction items with
  | nil => exact .built (by simp) .nil
  | cons item rest ih =>
    obtain ⟨here, later⟩ := List.forall_mem_cons.1 each
    rw [List.mapM_cons]
    refine (here.bind fun result meant => (ih later).map fun results allMeant => ?_).imp List.forall_mem_cons.symm
      fun _ made => made
    exact .cons meant allMeant

end Decides

/-- Lists of entries with the same keys have related values under each key. -/
theorem Keyed.look_related {α β : Type} {related : α → β → Prop} {first : List (String × α)} {second : List (String × β)}
    (pairs : List.Forall₂ (fun entry other => other.1 = entry.1 ∧ related entry.2 other.2) first second) (key : String) :
    Option.Rel related (Keyed.look key first) (Keyed.look key second) := by
  induction pairs with
  | nil => exact .none
  | @cons entry other rest others pair pairs ih =>
    obtain ⟨sameKey, relatedHere⟩ := pair
    simp only [Keyed.look, sameKey]
    split
    · exact .some relatedHere
    · exact ih

/-- Of entries that are made for a list of names, each name has one, and has it made for it. -/
theorem Keyed.look_of_named {α : Type} (made : String → α → Prop) {names : List String} {entries : List (String × α)}
    (pairs : List.Forall₂ (fun name entry => entry.1 = name ∧ made name entry.2) names entries) (name : String) :
    (∃ value, Keyed.look name entries = some value) ↔ name ∈ names := by
  induction pairs with
  | nil => simp [Keyed.look]
  | @cons head entry rest others pair pairs ih =>
    rw [List.mem_cons, ← ih, Keyed.look, pair.1]
    by_cases same : name = head <;> simp [same]

theorem Keyed.named_of_look {α : Type} (made : String → α → Prop) {names : List String} {entries : List (String × α)}
    (pairs : List.Forall₂ (fun name entry => entry.1 = name ∧ made name entry.2) names entries) {name : String}
    {value : α} (found : Keyed.look name entries = some value) : made name value := by
  induction pairs with
  | nil => cases found
  | @cons head entry rest others pair pairs ih =>
    rw [Keyed.look, pair.1] at found
    split at found
    · next same =>
      cases found
      exact same ▸ pair.2
    · exact ih found

namespace Description

open Descriptor

theorem lists_of_texts {items : List Descriptor} (texts : ∀ item ∈ items, ∃ name, item = .text name) :
    ∃ names, ListsTexts (some (.list items)) names := by
  have inRange : items ∈ Set.range (List.map Descriptor.text) := by
    rw [Set.range_list_map]
    intro item member
    obtain ⟨name, same⟩ := texts item member
    exact ⟨name, same.symm⟩
  obtain ⟨names, same⟩ := inRange
  exact ⟨names, congrArg Descriptor.list same.symm⟩

theorem texts_decides (path : String) (value : Option Descriptor) :
    Decides (∃ names, ListsTexts value names) (ListsTexts value) (texts path value) := by
  cases value with
  | none => exact .built ⟨[], rfl⟩ rfl
  | some value =>
    cases value with
    | list items =>
      have decides : Decides (∀ item ∈ items, ∃ name, item = .text name)
          (List.Forall₂ (fun item name => item = .text name) items) (texts path (some (.list items))) := by
        refine Decides.mapM fun item _ => ?_
        cases item with
        | text name => exact .built ⟨name, rfl⟩ rfl
        | _ => exact .invalid (by simp)
      refine decides.imp ⟨lists_of_texts, ?_⟩ fun names meant => ?_
      · rintro ⟨names, listed⟩ item member
        cases listed
        obtain ⟨name, _, same⟩ := List.mem_map.1 member
        exact ⟨name, same.symm⟩
      · rw [← List.forall₂_map_right_iff, List.forall₂_eq_eq_eq] at meant
        exact congrArg Descriptor.list meant
    | _ => exact .invalid (by simp [ListsTexts])

theorem predicate_decides (path : String) (value : Descriptor) :
    Decides value.IsPredicate value.Denotes (predicate path value) := by
  unfold predicate
  cases found : value.predicate? with
  | some test =>
    have denotes := (denotes_iff value test).2 found
    exact .built ⟨test, denotes⟩ denotes
  | none => exact .invalid (by simp [IsPredicate, denotes_iff, found])

theorem parameters_decides (function : String) (value : Option Descriptor) :
    Decides (∀ given ∈ value, given.IsPredicateMap)
      (fun parameters => ∀ name test, parameters.get? name = some test ↔ GivesParameter value name test)
      (parameters function value) := by
  cases value with
  | none => exact .built (by simp) (by simp [GivesParameter])
  | some value =>
    cases value with
    | map entries =>
      have each : ∀ entry ∈ entries, Decides entry.2.IsPredicate
          (fun parameter => parameter.1 = entry.1 ∧ entry.2.Denotes parameter.2)
          (do
            let predicate ← predicate (function ++ ".params." ++ entry.1) entry.2
            return (entry.1, predicate)) := by
        intro entry _
        exact (predicate_decides _ entry.2).map fun test denotes => ⟨rfl, denotes⟩
      refine ((Decides.mapM each).map fun parameters pairs => ?_).imp ?_ fun _ made => made
      · intro name test
        have related := Keyed.look_related (List.forall₂_reverse_iff.2 pairs) name
        simp only [Keyed.get?_ofList, GivesParameter, Option.some.injEq, Descriptor.map.injEq, exists_and_left,
          exists_eq_left']
        generalize Keyed.look name entries.reverse = given at related ⊢
        generalize Keyed.look name parameters.reverse = made at related ⊢
        cases related with
        | none => simp
        | @some value own denotes =>
          rw [denotes_iff] at denotes
          simp [denotes_iff, denotes]
      · constructor
        · intro tests given same
          cases same
          exact ⟨entries, rfl, tests⟩
        · intro fit
          obtain ⟨own, same, tests⟩ := fit _ rfl
          cases same
          exact tests
    | _ => exact .invalid (by simp [IsPredicateMap])

theorem returns_decides (function : String) (value : Option Descriptor) :
    Decides (∀ given ∈ value, given.IsPredicate) (fun test => value.elim (test = .any) (·.Denotes test))
      (returns function value) := by
  cases value with
  | none => exact .built (by simp) rfl
  | some value => exact (predicate_decides _ value).imp (by simp) fun _ denotes => denotes

theorem maxRuntimeSeconds_decides (function : String) (value : Option Descriptor) :
    Decides (∀ given ∈ value, given.IsFiniteNumber) (fun seconds => value.elim (seconds = .zero) (· = .number seconds))
      (maxRuntimeSeconds function value) := by
  cases value with
  | none => exact .built (by simp) rfl
  | some value =>
    cases value with
    | number seconds =>
      rw [maxRuntimeSeconds]
      split
      · next finite => exact .built (by simp [IsFiniteNumber, finite]) rfl
      · next infinite => exact .invalid (by simp [IsFiniteNumber, infinite])
    | _ => exact .invalid (by simp [IsFiniteNumber])

theorem functionSpec_decides (function : String) (entries : List (String × Descriptor)) :
    Decides (WellFormedSection entries) (·.DescribedBy entries) (functionSpec function entries) := by
  refine ((parameters_decides function _).bind fun parameters parametersMade =>
    (returns_decides function _).bind fun returns returnsMade =>
    (maxRuntimeSeconds_decides function _).bind fun maxRuntimeSeconds maxRuntimeSecondsMade =>
    (texts_decides _ _).bind fun calls callsMade =>
    (texts_decides _ _).map fun callers callersMade => ?_).imp ?_ fun _ made => made
  · exact {
      parameters := parametersMade
      returns := returnsMade
      max_runtime_seconds := maxRuntimeSecondsMade
      allowed_calls := ⟨calls, callsMade, Names.mem_keys_ofList calls⟩
      allowed_callers := ⟨callers, callersMade, Names.mem_keys_ofList callers⟩ }
  · constructor
    · rintro ⟨parameters, returns, maxRuntimeSeconds, calls, callers⟩
      exact ⟨parameters, returns, maxRuntimeSeconds, calls, callers⟩
    · rintro ⟨parameters, returns, maxRuntimeSeconds, calls, callers⟩
      exact ⟨parameters, returns, maxRuntimeSeconds, calls, callers⟩

end Description

/-! ### The whole contract -/

namespace Schema

open Descriptor

variable {schema : Schema} {description : Description}

theorem texts_of_validateFunctions {items : List Descriptor} (valid : schema.validateFunctions description items = .ok ()) :
    ∃ names : List String, items = names.map .text ∧ ∀ name ∈ names, ∃ entries, description.section? name = some entries := by
  induction items with
  | nil => exact ⟨[], rfl, by simp⟩
  | cons item rest ih =>
    rw [validateFunctions] at valid
    cases here : schema.validateFunction description item with
    | error error =>
      rw [here] at valid
      cases valid
    | ok _ =>
      rw [here] at valid
      obtain ⟨names, same, found⟩ := ih valid
      cases item with
      | text name =>
        refine ⟨name :: names, by rw [same, List.map_cons], List.forall_mem_cons.2 ⟨?_, found⟩⟩
        simp only [validateFunction] at here
        cases given : description.section? name with
        | some entries => exact ⟨entries, rfl⟩
        | none => simp [given] at here
      | _ => cases here

/-- What a schema lets pass lists names of functions, and has a section for each of them. -/
theorem listed_of_valid (valid : schema.validate description = .ok ()) :
    ∃ names, ListsTexts (description.get? functionsKey) names ∧
      ∀ name ∈ names, ∃ entries, description.section? name = some entries := by
  unfold validate at valid
  split at valid
  · cases valid
  · split at valid
    · next items given =>
      obtain ⟨names, same, found⟩ := texts_of_validateFunctions valid
      exact ⟨names, by rw [given, same]; rfl, found⟩
    · cases valid
    · next absent => exact ⟨[], by rw [absent]; rfl, by simp⟩

end Schema

namespace Description

open Descriptor

theorem texts_of_lists {value : Option Descriptor} {names : List String} (path : String) (lists : ListsTexts value names) :
    texts path value = .ok names := by
  have decides := texts_decides path value
  generalize texts path value = result at decides
  cases decides with
  | built _ made => exact congrArg Except.ok (made.unique lists)
  | invalid misfit => exact absurd ⟨names, lists⟩ misfit

theorem listedSpec_decides {description : Description} {name : String}
    (found : ∃ entries, description.section? name = some entries) :
    Decides (∀ entries ∈ description.section? name, WellFormedSection entries)
      (fun listed => listed.1 = name ∧ description.Specifies name listed.2) (description.listedSpec name) := by
  obtain ⟨entries, found⟩ := found
  simp only [listedSpec, found]
  refine ((functionSpec_decides name entries).map fun spec made => ?_).imp (by simp) fun _ made => made
  exact ⟨rfl, entries, found, made⟩

theorem specs_of_listed {description : Description} {names : List String} {specs : List (String × FunctionSpec)}
    (pairs : List.Forall₂ (fun name listed => listed.1 = name ∧ description.Specifies name listed.2) names specs) :
    (∀ name, name ∈ (Keyed.ofList specs).keys ↔ name ∈ names) ∧
    ∀ name spec, (Keyed.ofList specs).get? name = some spec → description.Specifies name spec := by
  have pairs := List.forall₂_reverse_iff.2 pairs
  constructor
  · intro name
    simp only [Keyed.mem_keys_iff, Keyed.get?_ofList]
    rw [← List.mem_reverse]
    exact Keyed.look_of_named description.Specifies pairs name
  · intro name spec found
    rw [Keyed.get?_ofList] at found
    exact Keyed.named_of_look description.Specifies pairs found

theorem raiseOnViolation_eq_false_iff (description : Description) :
    description.raiseOnViolation = false ↔ description.get? "raise_on_contract_exception" = some (.bool false) := by
  unfold raiseOnViolation
  split
  · next value given => rw [given, Option.some.injEq, Descriptor.bool.injEq]
  · next other =>
    constructor
    · intro raised
      cases raised
    · intro given
      exact absurd given (other false)

theorem draft_decides {schema : Schema} {description : Description} (valid : schema.validate description = .ok ()) :
    Decides description.WellFormed (·.DescribedBy description) description.draft := by
  obtain ⟨names, lists, found⟩ := schema.listed_of_valid valid
  have listed : texts Schema.functionsKey (description.get? Schema.functionsKey) = .ok names := texts_of_lists _ lists
  have each := fun name member => description.listedSpec_decides (found name member)
  rw [draft, listed]
  refine ((Decides.mapM each).bind fun specs specsMade =>
    (texts_decides _ _).bind fun imports importsMade =>
    (texts_decides _ _).map fun calls callsMade => ?_).imp ?_ fun _ made => made
  · obtain ⟨specified, specs⟩ := specs_of_listed specsMade
    exact {
      declared := lists
      specified := specified
      specs := specs
      allowed_imports := ⟨imports, importsMade, Names.mem_keys_ofList imports⟩
      global_allowed_calls := ⟨calls, callsMade, Names.mem_keys_ofList calls⟩
      raise_on_violation := description.raiseOnViolation_eq_false_iff }
  · constructor
    · rintro ⟨sections, imports, calls⟩
      exact ⟨fun others othersListed => lists.unique othersListed ▸ sections, imports, calls⟩
    · rintro ⟨sections, imports, calls⟩
      exact ⟨sections names lists, imports, calls⟩

end Description

/-- Freezing drops repeated declarations, and changes nothing else. -/
theorem Draft.freeze_decides {draft : Draft} (specified : ∀ name ∈ draft.declaredFunctions, name ∈ draft.specs.keys) :
    Decides True (fun contract => FirstOccurrences draft.declaredFunctions contract.declaredFunctions ∧
      contract.toDraft = { draft with declaredFunctions := contract.declaredFunctions }) draft.freeze := by
  have freezes := draft.freeze_freezes
  generalize draft.freeze = frozen at freezes ⊢
  cases freezes with
  | contract _ declared unchanged => exact .built trivial ⟨declared, unchanged⟩
  | @refused name earlier later position _ missing =>
    have listed : name ∈ draft.declaredFunctions := by rw [position]; exact List.mem_append_cons_self
    exact absurd ((Keyed.mem_keys_iff _ _).1 (specified name listed)) missing

namespace Contract

theorem ofDescription_decides {schema : Schema} {description : Description}
    (valid : schema.validate description = .ok ()) :
    Decides description.WellFormed (·.DescribedBy description) (ofDescription schema description) := by
  rw [ofDescription, valid]
  refine ((Description.draft_decides valid).bind fun draft made => ?_).imp (and_iff_left trivial) fun _ made => made
  refine (Draft.freeze_decides fun name member => (made.specified name).2 member).imp Iff.rfl ?_
  exact fun contract frozen => ⟨draft, made, frozen⟩

theorem ofDescription_of_invalid {schema : Schema} {description : Description} {error : SchemaError}
    (invalid : schema.validate description = .error error) : ofDescription schema description = .error error := by
  rw [ofDescription, invalid]
  rfl

/-- A description makes a contract exactly when its schema lets it pass and it is well formed. The
contract is the one described, and a description that the schema lets pass can only fail for an
entry that is invalid. -/
theorem ofDescription_exact (schema : Schema) (description : Description) :
    ((∃ contract, ofDescription schema description = .ok contract) ↔
      schema.validate description = .ok () ∧ description.WellFormed) ∧
    (∀ contract, ofDescription schema description = .ok contract → contract.DescribedBy description) ∧
    ∀ error, schema.validate description = .ok () → ofDescription schema description = .error error →
      ∃ path defect, error = .invalidEntry path defect := by
  cases validated : schema.validate description with
  | error error =>
    rw [ofDescription_of_invalid validated]
    simp
  | ok _ =>
    have decides := ofDescription_decides validated
    generalize ofDescription schema description = result at decides
    cases decides with
    | built fit made =>
      refine ⟨⟨fun _ => ⟨rfl, fit⟩, fun _ => ⟨_, rfl⟩⟩, ?_, ?_⟩
      · intro contract same
        cases same
        exact made
      · intro error _ failed
        cases failed
    | invalid misfit =>
      refine ⟨⟨?_, fun fit => absurd fit.2 misfit⟩, ?_, ?_⟩
      · rintro ⟨contract, same⟩
        cases same
      · intro contract same
        cases same
      · intro error _ failed
        cases failed
        exact ⟨_, _, rfl⟩

section

/-- A schema that asks for nothing. -/
def lenient : Schema :=
  ⟨"lenient", .empty, .empty⟩

/-- One function is listed twice, and the other one has a section without any entry. -/
def sparse : Description where
  entries :=
    [("f", .map [("params", .map [("x", .text "int")]), ("max_runtime_seconds", .number (.ofNat 2)),
      ("allowed_callers", .list [.text "g"])]),
    ("functions", .list [.text "f", .text "g", .text "f"]), ("g", .map [])]

/-- The section of a function stands where the allowed imports are looked for. -/
def clashing : Description where
  entries := [("allowable_imports", .map []), ("functions", .list [.text "allowable_imports"])]

theorem ofDescription_of_sparse :
    (∃ contract, ofDescription lenient sparse = .ok contract ∧ contract.DescribedBy sparse) ∧ sparse.WellFormed ∧
    lenient.validate clashing = .ok () ∧ ¬ clashing.WellFormed ∧
    ∃ path defect, ofDescription lenient clashing = .error (.invalidEntry path defect) := by
  have sparseExact := ofDescription_exact lenient sparse
  have clashingExact := ofDescription_exact lenient clashing
  have valid : lenient.validate clashing = .ok () := rfl
  have built : (ofDescription lenient sparse).isOk = true := by decide +kernel
  have refused : ofDescription lenient clashing = .error (.invalidEntry "allowable_imports" (.notList .map)) := rfl
  obtain ⟨contract, made⟩ : ∃ contract, ofDescription lenient sparse = .ok contract := by
    cases result : ofDescription lenient sparse with
    | ok contract => exact ⟨contract, rfl⟩
    | error error => simp [result, Except.isOk, Except.toBool] at built
  refine ⟨⟨contract, made, sparseExact.2.1 contract made⟩, (sparseExact.1.1 ⟨contract, made⟩).2, valid, ?_, ?_⟩
  · intro wellFormed
    obtain ⟨other, same⟩ := clashingExact.1.2 ⟨valid, wellFormed⟩
    rw [refused] at same
    cases same
  · obtain ⟨path, defect, same⟩ := clashingExact.2.2 _ valid refused
    exact ⟨path, defect, same ▸ refused⟩

end

end Contract

end CallPolicy
