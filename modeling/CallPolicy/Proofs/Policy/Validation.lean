import CallPolicy.Proofs.Policy.Building
import CallPolicy.Proofs.Text.ByteOrder

/-! Which descriptions a schema lets pass, and for what it refuses the others.

A description is refused for its first defect. Required keys are looked at in the order of their
bytes, and the listed functions in the order of the list.
-/

set_option autoImplicit false

namespace CallPolicy

/-! ### What a schema asks for -/

/-- A descriptor is of a kind. -/
inductive Descriptor.IsOf : Descriptor → Kind → Prop where
  | bool (value : Bool) : IsOf (.bool value) .bool
  | number (value : Binary64) : IsOf (.number value) .number
  | string (value : String) : IsOf (.text value) .string
  | list (items : List Descriptor) : IsOf (.list items) .list
  | map (entries : List (String × Descriptor)) : IsOf (.map entries) .map
  | predicate {value : Descriptor} (isPredicate : value.IsPredicate) : IsOf value .predicate

theorem Kind.admits_iff (kind : Kind) (value : Descriptor) : kind.admits value = true ↔ value.IsOf kind := by
  constructor
  · intro admitted
    cases kind with
    | predicate =>
      obtain ⟨test, found⟩ := Option.isSome_iff_exists.1 admitted
      exact .predicate ⟨test, (value.denotes_iff test).2 found⟩
    | _ => cases value <;> first | constructor | cases admitted
  · intro isOf
    cases isOf with
    | predicate isPredicate =>
      obtain ⟨test, denotes⟩ := isPredicate
      exact Option.isSome_iff_exists.2 ⟨test, (value.denotes_iff test).1 denotes⟩
    | _ => rfl

namespace Schema

/-- There is an entry, and it is of the kind. -/
def Meets (entry : Option Descriptor) (kind : Kind) : Prop :=
  ∃ value, entry = some value ∧ value.IsOf kind

/-- Each required key has an entry of its kind. -/
def MeetsAll (required : Keyed Kind) (entryOf : String → Option Descriptor) : Prop :=
  ∀ key kind, required.get? key = some kind → Meets (entryOf key) kind

/-- What the description lists under the key of functions. No list at all is an empty one. -/
def Lists (description : Description) (items : List Descriptor) : Prop :=
  (description.get? functionsKey).elim (items = []) (· = .list items)

/-- A listed item names a section at the top that has all that is asked of functions. -/
def Accepts (schema : Schema) (description : Description) (item : Descriptor) : Prop :=
  ∃ function entries, item = .text function ∧ description.get? function = some (.map entries) ∧
    MeetsAll schema.functions (Keyed.look · entries)

/-- The description has all that is asked for. -/
structure Conforms (schema : Schema) (description : Description) : Prop where
  globals : MeetsAll schema.globals description.get?
  functions : ∃ items, Lists description items ∧ ∀ item ∈ items, schema.Accepts description item

/-! ### What it refuses -/

/-- The first required key, in the order of bytes, that has no entry of its kind. -/
structure FirstUnmet (required : Keyed Kind) (entryOf : String → Option Descriptor) (key : String) (kind : Kind)
    (found : Option Shape) : Prop where
  required_here : required.get? key = some kind
  unmet : ¬ Meets (entryOf key) kind
  found_here : found = (entryOf key).map (·.shape)
  met_before : ∀ earlier other, required.get? earlier = some other → Text.utf8 earlier < Text.utf8 key →
    Meets (entryOf earlier) other

/-- What is wrong with a listed item. -/
inductive Refuses (schema : Schema) (description : Description) : Descriptor → SchemaError → Prop where
  | noName {item : Descriptor} (noText : ∀ function, item ≠ .text function) :
      Refuses schema description item (.invalidEntry functionsKey (.notFunctionName item.shape))
  | noSection {function : String} (missing : ∀ entries, description.get? function ≠ some (.map entries)) :
      Refuses schema description (.text function) (.missingSpec function)
  | key {function key : String} {kind : Kind} {found : Option Shape} {entries : List (String × Descriptor)}
      (given : description.get? function = some (.map entries))
      (first : FirstUnmet schema.functions (Keyed.look · entries) key kind found) :
      Refuses schema description (.text function) (.functionKey function key kind found)

/-- The first defect of a description: of its global keys, of what it has for a list of functions, or of
the listed functions. -/
inductive FirstDefect (schema : Schema) (description : Description) : SchemaError → Prop where
  | globalKey {key : String} {kind : Kind} {found : Option Shape}
      (first : FirstUnmet schema.globals description.get? key kind found) :
      FirstDefect schema description (.globalKey key kind found)
  | noList {value : Descriptor} (globals : MeetsAll schema.globals description.get?)
      (given : description.get? functionsKey = some value) (other : ∀ items, value ≠ .list items) :
      FirstDefect schema description (.globalKey functionsKey .list (some value.shape))
  | listed {earlier later : List Descriptor} {item : Descriptor} {error : SchemaError}
      (globals : MeetsAll schema.globals description.get?)
      (position : Lists description (earlier ++ item :: later))
      (before : ∀ other ∈ earlier, schema.Accepts description other)
      (refused : schema.Refuses description item error) :
      FirstDefect schema description error

/-! ### Keys -/

variable {required : Keyed Kind} {entryOf : String → Option Descriptor}

theorem any_admits_iff (entry : Option Descriptor) (kind : Kind) : entry.any kind.admits = true ↔ Meets entry kind := by
  simp only [Option.any_eq_true, Kind.admits_iff, Meets]

theorem firstMismatch_eq_find? (required : List (String × Kind)) (entryOf : String → Option Descriptor) :
    firstMismatch required entryOf = (required.find? fun entry => !(entryOf entry.1).any entry.2.admits).map
      fun entry => (entry.1, entry.2, (entryOf entry.1).map (·.shape)) := by
  induction required with
  | nil => rfl
  | cons entry rest ih =>
    obtain ⟨key, kind⟩ := entry
    rw [firstMismatch, List.find?_cons]
    cases given : entryOf key with
    | none => simp [given]
    | some value => cases admitted : kind.admits value <;> simp [given, admitted, ih]

theorem firstMismatch_eq_none_iff : firstMismatch required.entries entryOf = none ↔ MeetsAll required entryOf := by
  rw [firstMismatch_eq_find?, Option.map_eq_none_iff, List.find?_eq_none]
  simp only [Bool.not_eq_true', Bool.not_eq_false, any_admits_iff, Prod.forall, MeetsAll, Keyed.get?_eq_some_iff]

theorem firstMismatch_eq_some_iff {key : String} {kind : Kind} {found : Option Shape} :
    firstMismatch required.entries entryOf = some (key, kind, found) ↔ FirstUnmet required entryOf key kind found := by
  rw [firstMismatch_eq_find?, Option.map_eq_some_iff]
  constructor
  · rintro ⟨⟨key, kind⟩, first, same⟩
    cases same
    obtain ⟨unmet, earlier, later, position, met⟩ := List.find?_eq_some_iff_append.1 first
    have member : (key, kind) ∈ required.entries := List.mem_of_find?_eq_some first
    have ordered := required.ordered
    rw [Keyed.Ordered, position, List.pairwise_append, List.pairwise_cons] at ordered
    obtain ⟨_, ⟨after, _⟩, _⟩ := ordered
    refine ⟨(Keyed.get?_eq_some_iff _ _ _).2 member, ?_, rfl, ?_⟩
    · rw [← any_admits_iff]
      simpa using unmet
    · intro other expected requiredToo less
      rw [Text.utf8_lt_iff] at less
      rw [Keyed.get?_eq_some_iff, position] at requiredToo
      rcases List.mem_append.1 requiredToo with before | behind
      · rw [← any_admits_iff]
        simpa using met _ before
      · rcases List.mem_cons.1 behind with same | behind
        · cases same
          exact absurd less (String.lt_irrefl _)
        · exact absurd (after _ behind) (String.lt_asymm less)
  · rintro ⟨requiredHere, unmet, rfl, metBefore⟩
    refine ⟨(key, kind), List.find?_eq_some_iff_append.2 ⟨?_, ?_⟩, rfl⟩
    · rw [← any_admits_iff] at unmet
      simpa using unmet
    · obtain ⟨earlier, later, position⟩ := List.append_of_mem ((Keyed.get?_eq_some_iff _ _ _).1 requiredHere)
      have ordered := required.ordered
      rw [Keyed.Ordered, position, List.pairwise_append] at ordered
      refine ⟨earlier, later, position, fun entry member => ?_⟩
      have less : entry.1 < key := ordered.2.2 entry member _ List.mem_cons_self
      have requiredToo : required.get? entry.1 = some entry.2 := by
        rw [Keyed.get?_eq_some_iff, position]
        exact List.mem_append_left _ member
      simpa using (any_admits_iff _ _).2 (metBefore _ _ requiredToo ((Text.utf8_lt_iff _ _).2 less))

/-! ### Checks -/

/-- A check lets pass just what is accepted, and says of anything else what it is refused for. -/
structure Settles (accepted : Prop) (refused : SchemaError → Prop) (result : Except SchemaError Unit) : Prop where
  ok_iff : result = .ok () ↔ accepted
  error_iff : ∀ error, result = .error error ↔ refused error

namespace Settles

variable {accepted : Prop} {refused : SchemaError → Prop}

theorem passed (here : accepted) (unrefused : ∀ error, ¬ refused error) : Settles accepted refused (.ok ()) where
  ok_iff := iff_of_true rfl here
  error_iff error := iff_of_false (by rintro ⟨⟩) (unrefused error)

theorem stopped {error : SchemaError} (here : refused error) (only : ∀ other, refused other → error = other)
    (unaccepted : ¬ accepted) : Settles accepted refused (.error error) where
  ok_iff := iff_of_false (by rintro ⟨⟩) unaccepted
  error_iff other := by
    constructor
    · rintro ⟨⟩
      exact here
    · intro refusedToo
      exact congrArg Except.error (only other refusedToo)

end Settles

variable {schema : Schema} {description : Description}

theorem section?_eq_some_iff (description : Description) (function : String) (entries : List (String × Descriptor)) :
    description.section? function = some entries ↔ description.get? function = some (.map entries) := by
  unfold Description.section?
  cases description.get? function with
  | none => simp
  | some value => cases value <;> simp [Descriptor.map?]

theorem Accepts.met {function : String} {entries : List (String × Descriptor)}
    (accepted : schema.Accepts description (.text function)) (given : description.get? function = some (.map entries)) :
    MeetsAll schema.functions (Keyed.look · entries) := by
  obtain ⟨_, _, same, givenToo, met⟩ := accepted
  cases same
  rw [given] at givenToo
  cases givenToo
  exact met

theorem validateFunction_of_noText {item : Descriptor} (noText : ∀ function, item ≠ .text function) :
    schema.validateFunction description item = .error (.invalidEntry functionsKey (.notFunctionName item.shape)) := by
  cases item with
  | text function => exact absurd rfl (noText function)
  | _ => rfl

theorem validateFunction_settles (schema : Schema) (description : Description) (item : Descriptor) :
    Settles (schema.Accepts description item) (schema.Refuses description item) (schema.validateFunction description item) := by
  by_cases noText : ∀ function, item ≠ .text function
  · rw [validateFunction_of_noText noText]
    refine .stopped (.noName noText) ?_ ?_
    · intro other refused
      cases refused with
      | noName _ => rfl
      | noSection _ => exact absurd rfl (noText _)
      | key _ _ => exact absurd rfl (noText _)
    · rintro ⟨function, _, same, _⟩
      exact noText function same
  · obtain ⟨function, rfl⟩ := not_forall_not.1 noText
    rw [validateFunction]
    cases found : description.section? function with
    | none =>
      have missing : ∀ entries, description.get? function ≠ some (.map entries) := by
        intro entries given
        rw [← section?_eq_some_iff, found] at given
        cases given
      refine .stopped (.noSection missing) ?_ ?_
      · intro other refused
        cases refused with
        | noName noText => exact absurd rfl (noText function)
        | noSection _ => rfl
        | key given _ => exact absurd given (missing _)
      · rintro ⟨_, entries, same, given, _⟩
        cases same
        exact missing entries given
    | some entries =>
      have given := (section?_eq_some_iff description function entries).1 found
      dsimp only
      cases mismatch : firstMismatch schema.functions.entries (Keyed.look · entries) with
      | none =>
        have met := firstMismatch_eq_none_iff.1 mismatch
        refine .passed ⟨function, entries, rfl, given, met⟩ ?_
        intro error refused
        cases refused with
        | noName noText => exact noText function rfl
        | noSection missing => exact missing entries given
        | key givenToo first =>
          rw [given] at givenToo
          cases givenToo
          exact first.unmet (met _ _ first.required_here)
      | some unmet =>
        obtain ⟨key, kind, shape⟩ := unmet
        have first := firstMismatch_eq_some_iff.1 mismatch
        refine .stopped (.key given first) ?_ ?_
        · intro other refused
          cases refused with
          | noName noText => exact absurd rfl (noText function)
          | noSection missing => exact absurd given (missing entries)
          | key givenToo firstToo =>
            rw [given] at givenToo
            cases givenToo
            have same := mismatch.symm.trans (firstMismatch_eq_some_iff.2 firstToo)
            cases same
            rfl
        · intro accepted
          exact first.unmet (accepted.met given _ _ first.required_here)

theorem validateFunctions_settles (schema : Schema) (description : Description) (items : List Descriptor) :
    Settles (∀ item ∈ items, schema.Accepts description item)
      (fun error => ∃ earlier item later, items = earlier ++ item :: later ∧
        (∀ other ∈ earlier, schema.Accepts description other) ∧ schema.Refuses description item error)
      (schema.validateFunctions description items) := by
  induction items with
  | nil => exact .passed (by simp) (by simp)
  | cons item rest ih =>
    have here := validateFunction_settles schema description item
    rw [validateFunctions]
    cases checked : schema.validateFunction description item with
    | error error =>
      rw [checked] at here
      have refused := (here.error_iff error).1 rfl
      have unaccepted : ¬ schema.Accepts description item := by
        intro accepted
        cases here.ok_iff.2 accepted
      refine .stopped ⟨[], item, rest, rfl, by simp, refused⟩ ?_ ?_
      · rintro other ⟨earlier, refusedItem, later, position, before, refusedToo⟩
        cases earlier with
        | nil =>
          cases position
          cases (here.error_iff other).2 refusedToo
          rfl
        | cons head earlier =>
          cases position
          exact absurd (before _ List.mem_cons_self) unaccepted
      · intro accepted
        exact unaccepted (accepted item List.mem_cons_self)
    | ok _ =>
      rw [checked] at here
      have accepted := here.ok_iff.1 rfl
      refine ⟨ih.ok_iff.trans ?_, fun error => (ih.error_iff error).trans ?_⟩
      · rw [List.forall_mem_cons]
        exact (and_iff_right accepted).symm
      · constructor
        · rintro ⟨earlier, refusedItem, later, rfl, before, refused⟩
          exact ⟨item :: earlier, refusedItem, later, rfl, List.forall_mem_cons.2 ⟨accepted, before⟩, refused⟩
        · rintro ⟨earlier, refusedItem, later, position, before, refused⟩
          cases earlier with
          | nil =>
            cases position
            cases (here.error_iff error).2 refused
          | cons head earlier =>
            cases position
            exact ⟨earlier, refusedItem, later, rfl, (List.forall_mem_cons.1 before).2, refused⟩

/-! ### Whole descriptions -/

theorem Lists.unique {first second : List Descriptor} (one : Lists description first) (other : Lists description second) :
    first = second := by
  unfold Lists at one other
  cases given : description.get? functionsKey with
  | none =>
    rw [given] at one other
    exact Eq.trans one (Eq.symm other)
  | some value =>
    rw [given] at one other
    exact Descriptor.list.inj (Eq.trans (Eq.symm one) other)

theorem Lists.of_given {value : Descriptor} {items : List Descriptor} (listed : Lists description items)
    (given : description.get? functionsKey = some value) : value = .list items := by
  rw [Lists, given] at listed
  exact listed

/-- Where the global keys are as they should be, the listed functions decide. -/
theorem settles_of_listed {items : List Descriptor} (globals : MeetsAll schema.globals description.get?)
    (listed : Lists description items) :
    Settles (schema.Conforms description) (schema.FirstDefect description) (schema.validateFunctions description items) := by
  have functions := validateFunctions_settles schema description items
  refine ⟨functions.ok_iff.trans ?_, fun error => (functions.error_iff error).trans ?_⟩
  · constructor
    · exact fun accepted => ⟨globals, items, listed, accepted⟩
    · rintro ⟨_, others, listedToo, accepted⟩
      exact listed.unique listedToo ▸ accepted
  · constructor
    · rintro ⟨earlier, item, later, rfl, before, refused⟩
      exact .listed globals listed before refused
    · intro defect
      cases defect with
      | globalKey first => exact absurd (globals _ _ first.required_here) first.unmet
      | noList _ given noList => exact absurd (listed.of_given given) (noList items)
      | listed _ position before refused => exact ⟨_, _, _, listed.unique position, before, refused⟩

theorem settles_of_noList {value : Descriptor} (globals : MeetsAll schema.globals description.get?)
    (given : description.get? functionsKey = some value) (noList : ∀ items, value ≠ .list items) :
    Settles (schema.Conforms description) (schema.FirstDefect description)
      (.error (.globalKey functionsKey .list (some value.shape))) := by
  refine .stopped (.noList globals given noList) ?_ ?_
  · intro other defect
    cases defect with
    | globalKey first => exact absurd (globals _ _ first.required_here) first.unmet
    | noList _ givenToo _ =>
      cases given.symm.trans givenToo
      rfl
    | listed _ position => exact absurd (position.of_given given) (noList _)
  · intro conforms
    obtain ⟨items, listed, _⟩ := conforms.functions
    exact noList items (listed.of_given given)

theorem validate_settles (schema : Schema) (description : Description) :
    Settles (schema.Conforms description) (schema.FirstDefect description) (schema.validate description) := by
  rw [validate]
  cases mismatch : firstMismatch schema.globals.entries description.get? with
  | some unmet =>
    obtain ⟨key, kind, shape⟩ := unmet
    have first := firstMismatch_eq_some_iff.1 mismatch
    have notAll : ¬ MeetsAll schema.globals description.get? := fun met => first.unmet (met _ _ first.required_here)
    refine .stopped (.globalKey first) ?_ fun conforms => notAll conforms.globals
    intro other defect
    cases defect with
    | globalKey firstToo =>
      cases mismatch.symm.trans (firstMismatch_eq_some_iff.2 firstToo)
      rfl
    | noList globals => exact absurd globals notAll
    | listed globals => exact absurd globals notAll
  | none =>
    have globals := firstMismatch_eq_none_iff.1 mismatch
    dsimp only
    cases given : description.get? functionsKey with
    | none =>
      have listed : Lists description [] := by rw [Lists, given]; rfl
      exact settles_of_listed globals listed
    | some value =>
      cases value with
      | list items =>
        have listed : Lists description items := by rw [Lists, given]; rfl
        exact settles_of_listed globals listed
      | _ => exact settles_of_noList globals given (by simp)

/-- A description passes just when it has all that the schema asks for, and otherwise it is refused
for its first defect. -/
theorem validate_exact (schema : Schema) (description : Description) :
    (schema.validate description = .ok () ↔ schema.Conforms description) ∧
    ∀ error, schema.validate description = .error error ↔ schema.FirstDefect description error :=
  ⟨(validate_settles schema description).ok_iff, (validate_settles schema description).error_iff⟩

/-- The first of four missing keys. -/
example : v1.validate .empty = .error (.globalKey "allowable_imports" .list none) := rfl

end Schema

end CallPolicy
