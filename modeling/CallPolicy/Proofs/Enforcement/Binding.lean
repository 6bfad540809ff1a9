import CallPolicy.Enforcement.Binding
import Mathlib.Data.List.Induction
import Mathlib.Data.Nat.Find
import Mathlib.Tactic.ByContra

/-! What binding makes of arguments.

The parameters are told apart by their places, since two of them may have one name. After each step
the slots hold what was supplied so far (`slotsAfter`), whatever they were filled by.
-/

set_option autoImplicit false

namespace CallPolicy

open Json (Value)

namespace Arguments

/-! ### Who gets which value -/

/-- The place of the first parameter of a name. -/
def target? (parameters : List Parameter) (name : String) : Option Nat :=
  parameters.findIdx? (·.name == name)

/-- A parameter has a value from its place, or by its name. -/
def Filled (parameters : List Parameter) (positional : List Value) (keywords : List (String × Value))
    (place : Nat) : Prop :=
  place < positional.length ∨ ∃ entry ∈ keywords, target? parameters entry.1 = some place

/-- A keyword that comes behind others names a parameter that has no value yet. -/
def Fits (parameters : List Parameter) (positional : List Value) (earlier : List (String × Value))
    (name : String) : Prop :=
  ∃ place, target? parameters name = some place ∧ ¬ Filled parameters positional earlier place

def AllFit (parameters : List Parameter) (positional : List Value) (keywords : List (String × Value)) : Prop :=
  ∀ earlier entry later, keywords = earlier ++ entry :: later → Fits parameters positional earlier entry.1

/-- The keyword that is aimed at a parameter. -/
def aimed? (parameters : List Parameter) (keywords : List (String × Value)) (place : Nat) : Option Value :=
  (keywords.find? fun entry => target? parameters entry.1 == some place).map (·.2)

def supplied? (parameters : List Parameter) (positional : List Value) (keywords : List (String × Value))
    (place : Nat) : Option Value :=
  positional[place]?.or (aimed? parameters keywords place)

/-- The slots once some keywords have been placed. -/
def slotsAfter (parameters : List Parameter) (positional : List Value) (keywords : List (String × Value)) :
    List Slot :=
  parameters.mapIdx fun place parameter => (parameter, supplied? parameters positional keywords place)

variable {parameters : List Parameter} {positional : List Value} {keywords : List (String × Value)}

theorem supplied?_isSome_iff (place : Nat) : (supplied? parameters positional keywords place).isSome = true ↔
    Filled parameters positional keywords place := by
  simp [supplied?, aimed?, Filled, Option.isSome_or, List.find?_isSome]

theorem supplied?_append (later : List (String × Value)) (place : Nat) :
    supplied? parameters positional (keywords ++ later) place =
      (supplied? parameters positional keywords place).or (aimed? parameters later place) := by
  rw [supplied?, supplied?, Option.or_assoc]
  congr 1
  rw [aimed?, aimed?, aimed?, List.find?_append, Option.map_or]

theorem aimed?_singleton (name : String) (value : Value) (place : Nat) :
    aimed? parameters [(name, value)] place = if target? parameters name = some place then some value else none := by
  by_cases aimed : target? parameters name = some place <;> simp [aimed?, aimed]

theorem slotsAfter_getElem? (place : Nat) : (slotsAfter parameters positional keywords)[place]? =
    parameters[place]?.map fun parameter => (parameter, supplied? parameters positional keywords place) :=
  List.getElem?_mapIdx

theorem slotsAfter_target (name : String) :
    (slotsAfter parameters positional keywords).findIdx? (·.1.name == name) = target? parameters name := by
  have same : (slotsAfter parameters positional keywords).map (·.1) = parameters := by
    refine List.ext_getElem? fun place => ?_
    rw [List.getElem?_map, slotsAfter_getElem?, Option.map_map]
    exact Option.map_id'
  rw [target?]
  conv_rhs => rw [← same, List.findIdx?_map]
  rfl

/-! ### Steps of binding -/

theorem fillPositional_eq (parameters : List Parameter) (positional : List Value) :
    fillPositional parameters positional = slotsAfter parameters positional [] := by
  refine List.ext_getElem? fun place => ?_
  rw [slotsAfter_getElem?]
  have nothing : supplied? parameters positional [] place = positional[place]? := Option.or_none
  rw [nothing]
  clear nothing
  induction parameters generalizing positional place with
  | nil => simp [fillPositional]
  | cons parameter rest ih =>
    cases positional with
    | nil => cases place <;> simp [fillPositional, ih]
    | cons value values => cases place <;> simp [fillPositional, ih]

theorem fillKeyword_eq (name : String) (value : Value) (slots : List Slot) :
    fillKeyword name value slots = match slots.findIdx? (·.1.name == name) with
      | none => .error (.unknownKeyword name)
      | some place =>
        if (slots[place]?.bind (·.2)).isSome then .error (.duplicate name)
        else .ok (slots.modify place fun slot => (slot.1, some value)) := by
  induction slots with
  | nil => rfl
  | cons slot rest ih =>
    obtain ⟨parameter, filled⟩ := slot
    rw [fillKeyword.eq_def, List.findIdx?_cons]
    by_cases same : parameter.name = name
    · cases filled <;> simp [same]
    · simp only [same, ih, beq_eq_false_iff_ne.2 same]
      cases rest.findIdx? (·.1.name == name) with
      | none => simp [Except.map]
      | some place =>
        simp
        split <;> simp [Except.map]

theorem fillKeyword_of_fits {name : String} (fits : Fits parameters positional keywords name) (value : Value) :
    fillKeyword name value (slotsAfter parameters positional keywords) =
      .ok (slotsAfter parameters positional (keywords ++ [(name, value)])) := by
  obtain ⟨place, aimed, unfilled⟩ := fits
  rw [← supplied?_isSome_iff, Bool.not_eq_true, Option.isSome_eq_false_iff, Option.isNone_iff_eq_none] at unfilled
  rw [fillKeyword_eq, slotsAfter_target, aimed]
  have free : ((slotsAfter parameters positional keywords)[place]?.bind (·.2)).isSome = false := by
    rw [slotsAfter_getElem?]
    cases parameters[place]? <;> simp [unfilled]
  simp only [free, Bool.false_eq_true, if_false]
  refine congrArg Except.ok (List.ext_getElem? fun other => ?_)
  rw [List.getElem?_modify, slotsAfter_getElem?, slotsAfter_getElem?, supplied?_append, aimed?_singleton, aimed]
  by_cases same : place = other
  · subst same
    simp [unfilled, Function.comp_def]
  · simp [same]

theorem fillKeyword_of_unknown {name : String} (unknown : target? parameters name = none) (value : Value) :
    fillKeyword name value (slotsAfter parameters positional keywords) = .error (.unknownKeyword name) := by
  rw [fillKeyword_eq, slotsAfter_target, unknown]

theorem fillKeyword_of_filled {name : String} {place : Nat} (aimed : target? parameters name = some place)
    (filled : Filled parameters positional keywords place) (value : Value) :
    fillKeyword name value (slotsAfter parameters positional keywords) = .error (.duplicate name) := by
  rw [← supplied?_isSome_iff] at filled
  have there : place < parameters.length := (List.findIdx?_eq_some_iff_getElem.1 aimed).1
  rw [fillKeyword_eq, slotsAfter_target, aimed]
  simp [slotsAfter_getElem?, there, filled]

theorem allFit_concat {entry : String × Value} : AllFit parameters positional (keywords ++ [entry]) ↔
    AllFit parameters positional keywords ∧ Fits parameters positional keywords entry.1 := by
  constructor
  · intro fit
    refine ⟨?_, fit keywords entry [] rfl⟩
    rintro earlier other later rfl
    exact fit earlier other (later ++ [entry]) (by simp)
  · rintro ⟨fit, last⟩ earlier other later position
    rcases List.eq_nil_or_concat later with rfl | ⟨rest, final, rfl⟩
    · obtain ⟨rfl, rfl⟩ := List.append_inj' position rfl |>.imp_right List.singleton_inj.1
      exact last
    · rw [List.concat_eq_append, ← List.cons_append, ← List.append_assoc] at position
      obtain ⟨rfl, _⟩ := List.append_inj' position rfl
      exact fit earlier other rest rfl

/-- Keywords that fit are placed one after the other, whatever comes behind them. -/
theorem fillKeywords_of_allFit (fit : AllFit parameters positional keywords) (later : List (String × Value)) :
    fillKeywords (keywords ++ later) (slotsAfter parameters positional []) =
      fillKeywords later (slotsAfter parameters positional keywords) := by
  induction keywords using List.reverseRecOn generalizing later with
  | nil => rfl
  | append_singleton earlier entry ih =>
    obtain ⟨before, last⟩ := allFit_concat.1 fit
    rw [List.append_assoc, ih before]
    obtain ⟨name, value⟩ := entry
    rw [List.singleton_append, fillKeywords, fillKeyword_of_fits last]
    rfl

/-- Where not all keywords fit, there is a first one that does not. -/
theorem first_misfit (misfit : ¬ AllFit parameters positional keywords) :
    ∃ earlier entry later, keywords = earlier ++ entry :: later ∧ AllFit parameters positional earlier ∧
      ¬ Fits parameters positional earlier entry.1 := by
  induction keywords using List.reverseRecOn with
  | nil => exact absurd (fun _ _ _ position => by simp at position) misfit
  | append_singleton earlier entry ih =>
    by_cases fit : AllFit parameters positional earlier
    · have last : ¬ Fits parameters positional earlier entry.1 := fun last => misfit (allFit_concat.2 ⟨fit, last⟩)
      exact ⟨earlier, entry, [], rfl, fit, last⟩
    · obtain ⟨before, other, later, rfl, fit, last⟩ := ih fit
      exact ⟨before, other, later ++ [entry], by simp, fit, last⟩

/-- What a slot adds to the bound values. -/
def Slot.entry? (slot : Slot) : Option (String × Value) :=
  (slot.2.or slot.1.default).map fun value => (slot.1.name, value)

theorem complete_cons (slot : Slot) (rest : List Slot) : complete (slot :: rest) = match slot.entry? with
    | some entry => (complete rest).map (entry :: ·)
    | none => .error (.missing slot.1.name) := by
  obtain ⟨parameter, filled⟩ := slot
  rw [complete, Slot.entry?]
  cases filled with
  | some value => rfl
  | none => cases parameter.default <;> rfl

theorem complete_of_all {slots : List Slot} (all : ∀ slot ∈ slots, slot.entry?.isSome = true) :
    ∃ bound : Bound, complete slots = .ok bound ∧ ∀ place : Nat, bound[place]? = slots[place]?.bind Slot.entry? := by
  induction slots with
  | nil => exact ⟨[], rfl, fun _ => rfl⟩
  | cons slot rest ih =>
    obtain ⟨here, later⟩ := List.forall_mem_cons.1 all
    obtain ⟨bound, completed, same⟩ := ih later
    obtain ⟨entry, given⟩ := Option.isSome_iff_exists.1 here
    refine ⟨entry :: bound, ?_, fun place => ?_⟩
    · rw [complete_cons, given, completed]
      rfl
    · cases place with
      | zero => exact given.symm
      | succ place => exact same place

theorem complete_of_missing {slots : List Slot} {place : Nat} {slot : Slot} (here : slots[place]? = some slot)
    (missing : slot.entry? = none)
    (before : ∀ earlier other, earlier < place → slots[earlier]? = some other → other.entry?.isSome = true) :
    complete slots = .error (.missing slot.1.name) := by
  induction slots generalizing place with
  | nil => simp at here
  | cons head rest ih =>
    rw [complete_cons]
    cases place with
    | zero =>
      obtain rfl : head = slot := Option.some.inj here
      rw [missing]
    | succ place =>
      obtain ⟨entry, given⟩ := Option.isSome_iff_exists.1 (before 0 head (Nat.zero_lt_succ place) rfl)
      have later : complete rest = .error (.missing slot.1.name) :=
        ih here fun earlier other less found => before (earlier + 1) other (Nat.succ_lt_succ less) found
      rw [given, later]
      rfl

end Arguments

/-! ### Binding -/

open Arguments

/-- The parameter gets no value from the arguments, and has none of its own. -/
def Lacks (parameters : List Parameter) (arguments : Arguments) (place : Nat) (parameter : Parameter) : Prop :=
  ¬ Filled parameters arguments.positional arguments.keyword place ∧ parameter.default = none

/-- The arguments can be bound to the parameters. -/
structure Bindable (parameters : List Parameter) (arguments : Arguments) : Prop where
  positional_fit : arguments.positional.length ≤ parameters.length
  keywords_known : ∀ entry ∈ arguments.keyword, ∃ parameter ∈ parameters, parameter.name = entry.1
  filled_once : ∀ earlier entry later place, arguments.keyword = earlier ++ entry :: later →
    target? parameters entry.1 = some place → ¬ Filled parameters arguments.positional earlier place
  none_lacking : ∀ place parameter, parameters[place]? = some parameter → ¬ Lacks parameters arguments place parameter

/-- The first fault of arguments that cannot be bound: too many of them are positional, some keyword does not
fit, or some parameter is left without a value. -/
inductive FirstFault (parameters : List Parameter) (arguments : Arguments) : BindingError → Prop where
  | tooMany (more : parameters.length < arguments.positional.length) :
      FirstFault parameters arguments (.tooManyPositional parameters.length arguments.positional.length)
  | unknown {earlier later : List (String × Value)} {name : String} {value : Value}
      (fit : arguments.positional.length ≤ parameters.length)
      (position : arguments.keyword = earlier ++ (name, value) :: later)
      (before : AllFit parameters arguments.positional earlier)
      (nowhere : ∀ parameter ∈ parameters, parameter.name ≠ name) :
      FirstFault parameters arguments (.unknownKeyword name)
  | duplicate {earlier later : List (String × Value)} {name : String} {value : Value} {place : Nat}
      (fit : arguments.positional.length ≤ parameters.length)
      (position : arguments.keyword = earlier ++ (name, value) :: later)
      (before : AllFit parameters arguments.positional earlier) (aimed : target? parameters name = some place)
      (filled : Filled parameters arguments.positional earlier place) :
      FirstFault parameters arguments (.duplicate name)
  | missing {place : Nat} {parameter : Parameter} (fit : arguments.positional.length ≤ parameters.length)
      (keywords : AllFit parameters arguments.positional arguments.keyword)
      (here : parameters[place]? = some parameter)
      (lacking : Lacks parameters arguments place parameter)
      (before : ∀ earlier other, earlier < place → parameters[earlier]? = some other →
        ¬ Lacks parameters arguments earlier other) :
      FirstFault parameters arguments (.missing parameter.name)

variable {parameters : List Parameter} {arguments : Arguments}

theorem target?_eq_none_iff {name : String} :
    target? parameters name = none ↔ ∀ parameter ∈ parameters, parameter.name ≠ name := by
  simp [target?, List.findIdx?_eq_none_iff]

theorem Bindable.aimed (bindable : Bindable parameters arguments) {entry : String × Value}
    (member : entry ∈ arguments.keyword) : ∃ place, target? parameters entry.1 = some place := by
  obtain ⟨parameter, declared, named⟩ := bindable.keywords_known entry member
  rw [← Option.ne_none_iff_exists', ne_eq, target?_eq_none_iff]
  exact fun nowhere => nowhere parameter declared named

theorem Bindable.allFit (bindable : Bindable parameters arguments) :
    AllFit parameters arguments.positional arguments.keyword := by
  intro earlier entry later position
  have member : entry ∈ arguments.keyword := by rw [position]; exact List.mem_append_cons_self
  obtain ⟨place, aimed⟩ := bindable.aimed member
  exact ⟨place, aimed, bindable.filled_once earlier entry later place position aimed⟩

theorem entry?_eq_none_iff (place : Nat) (parameter : Parameter) :
    Slot.entry? (parameter, supplied? parameters arguments.positional arguments.keyword place) = none ↔
      Lacks parameters arguments place parameter := by
  rw [Lacks, ← supplied?_isSome_iff]
  cases supplied? parameters arguments.positional arguments.keyword place <;> simp [Slot.entry?]

theorem bind_of_fits (fit : arguments.positional.length ≤ parameters.length)
    (keywords : AllFit parameters arguments.positional arguments.keyword) :
    bind parameters arguments = complete (slotsAfter parameters arguments.positional arguments.keyword) := by
  have filled := fillKeywords_of_allFit keywords []
  rw [List.append_nil] at filled
  rw [bind, if_neg (Nat.not_lt.2 fit), fillPositional_eq, filled]
  rfl

theorem bind_of_fault {error : BindingError} (fault : FirstFault parameters arguments error) :
    bind parameters arguments = .error error := by
  cases fault with
  | tooMany more => rw [bind, if_pos more]
  | @unknown earlier later name value fit position before nowhere =>
    rw [bind, if_neg (Nat.not_lt.2 fit), fillPositional_eq, position, fillKeywords_of_allFit before, fillKeywords,
      fillKeyword_of_unknown (target?_eq_none_iff.2 nowhere)]
    rfl
  | @duplicate earlier later name value place fit position before aimed filled =>
    rw [bind, if_neg (Nat.not_lt.2 fit), fillPositional_eq, position, fillKeywords_of_allFit before, fillKeywords,
      fillKeyword_of_filled aimed filled]
    rfl
  | @missing place parameter fit keywords here lacking before =>
    rw [bind_of_fits fit keywords]
    have there : (slotsAfter parameters arguments.positional arguments.keyword)[place]? =
        some (parameter, supplied? parameters arguments.positional arguments.keyword place) := by
      rw [slotsAfter_getElem?, here, Option.map_some]
    refine complete_of_missing there ((entry?_eq_none_iff place parameter).2 lacking) ?_
    intro earlier other less found
    rw [slotsAfter_getElem?, Option.map_eq_some_iff] at found
    obtain ⟨declared, thereToo, rfl⟩ := found
    rw [← Option.ne_none_iff_isSome, ne_eq, entry?_eq_none_iff]
    exact before earlier declared less thereToo

theorem bind_of_bindable (bindable : Bindable parameters arguments) :
    ∃ bound : Bound, bind parameters arguments = .ok bound ∧
    ∀ place : Nat, bound[place]? = parameters[place]?.bind fun parameter =>
      Slot.entry? (parameter, supplied? parameters arguments.positional arguments.keyword place) := by
  have all : ∀ slot ∈ slotsAfter parameters arguments.positional arguments.keyword, slot.entry?.isSome = true := by
    intro slot member
    obtain ⟨place, there⟩ := List.getElem?_of_mem member
    rw [slotsAfter_getElem?, Option.map_eq_some_iff] at there
    obtain ⟨parameter, declared, rfl⟩ := there
    rw [← Option.ne_none_iff_isSome, ne_eq, entry?_eq_none_iff]
    exact bindable.none_lacking place parameter declared
  obtain ⟨bound, completed, same⟩ := complete_of_all all
  refine ⟨bound, (bind_of_fits bindable.positional_fit bindable.allFit).trans completed, fun place => ?_⟩
  rw [same, slotsAfter_getElem?, Option.bind_map]
  rfl

theorem bindable_or_fault (parameters : List Parameter) (arguments : Arguments) :
    Bindable parameters arguments ∨ ∃ error, FirstFault parameters arguments error := by
  by_cases fit : arguments.positional.length ≤ parameters.length
  · by_cases keywords : AllFit parameters arguments.positional arguments.keyword
    · by_cases lacking : ∃ place parameter, parameters[place]? = some parameter ∧ Lacks parameters arguments place parameter
      · classical
        obtain ⟨parameter, here, lacks⟩ := Nat.find_spec lacking
        refine .inr ⟨_, .missing fit keywords here lacks fun earlier other less there lacksToo => ?_⟩
        exact Nat.find_min lacking less ⟨other, there, lacksToo⟩
      · refine .inl ⟨fit, ?_, ?_, fun place parameter here lacks => lacking ⟨place, parameter, here, lacks⟩⟩
        · intro entry member
          obtain ⟨earlier, later, position⟩ := List.append_of_mem member
          obtain ⟨place, aimed, _⟩ := keywords earlier entry later position
          by_contra nowhere
          rw [target?_eq_none_iff.2 fun parameter declared named => nowhere ⟨parameter, declared, named⟩] at aimed
          cases aimed
        · intro earlier entry later place position aimed
          obtain ⟨other, aimedToo, unfilled⟩ := keywords earlier entry later position
          cases aimed.symm.trans aimedToo
          exact unfilled
    · obtain ⟨earlier, ⟨name, value⟩, later, position, before, misfit⟩ := first_misfit keywords
      cases aimed : target? parameters name with
      | none => exact .inr ⟨_, .unknown fit position before (target?_eq_none_iff.1 aimed)⟩
      | some place =>
        by_cases filled : Filled parameters arguments.positional earlier place
        · exact .inr ⟨_, .duplicate fit position before aimed filled⟩
        · exact absurd ⟨place, aimed, filled⟩ misfit
  · exact .inr ⟨_, .tooMany (Nat.lt_of_not_le fit)⟩

/-! ### What the parameters are bound to -/

/-- Where the value of a parameter comes from. -/
inductive Arguments.Origin where
  | positional (index : Nat)
  | keyword (index : Nat)
  | default

/-- What may give its value to the parameter at a place. Its own value counts only where no argument does. -/
inductive Arguments.Offers (parameters : List Parameter) (arguments : Arguments) (place : Nat) : Origin → Value → Prop where
  | positional {value : Value} (given : arguments.positional[place]? = some value) :
      Offers parameters arguments place (.positional place) value
  | keyword {index : Nat} {name : String} {value : Value} (given : arguments.keyword[index]? = some (name, value))
      (aimed : target? parameters name = some place) : Offers parameters arguments place (.keyword index) value
  | default {parameter : Parameter} {value : Value} (here : parameters[place]? = some parameter)
      (unfilled : ¬ Filled parameters arguments.positional arguments.keyword place)
      (own : parameter.default = some value) : Offers parameters arguments place .default value

/-- One value for each parameter, in the order of declaration. Only one thing offers a value to a parameter, and
each argument goes to one parameter. -/
structure BoundBy (parameters : List Parameter) (arguments : Arguments) (bound : Bound) : Prop where
  names : bound.map (·.1) = parameters.map (·.name)
  values : ∀ place name value, bound[place]? = some (name, value) →
    ∃ origin, Offers parameters arguments place origin value ∧
      ∀ other offered, Offers parameters arguments place other offered → other = origin
  positional_used : ∀ index value, arguments.positional[index]? = some value →
    ∃! place, (∃ name, bound[place]? = some (name, value)) ∧ Offers parameters arguments place (.positional index) value
  keyword_used : ∀ index name value, arguments.keyword[index]? = some (name, value) →
    ∃! place, bound[place]? = some (name, value) ∧ Offers parameters arguments place (.keyword index) value

theorem Arguments.Offers.value_unique {place : Nat} {origin : Origin} {first second : Value}
    (one : Offers parameters arguments place origin first) (other : Offers parameters arguments place origin second) :
    first = second := by
  cases one with
  | positional given =>
    cases other with
    | positional givenToo => exact Option.some.inj (given.symm.trans givenToo)
  | keyword given _ =>
    cases other with
    | keyword givenToo _ => exact congrArg Prod.snd (Option.some.inj (given.symm.trans givenToo))
  | default here _ own =>
    cases other with
    | default hereToo _ ownToo =>
      cases here.symm.trans hereToo
      exact Option.some.inj (own.symm.trans ownToo)

theorem name_of_target? {name : String} {place : Nat} (aimed : target? parameters name = some place) :
    ∃ parameter, parameters[place]? = some parameter ∧ parameter.name = name := by
  obtain ⟨inside, named, _⟩ := List.findIdx?_eq_some_iff_getElem.1 aimed
  exact ⟨parameters[place], List.getElem?_eq_getElem inside, eq_of_beq named⟩

namespace Bindable

theorem not_filled (bindable : Bindable parameters arguments) {index place : Nat} {entry : String × Value}
    (given : arguments.keyword[index]? = some entry) (aimed : target? parameters entry.1 = some place) :
    ¬ Filled parameters arguments.positional (arguments.keyword.take index) place := by
  obtain ⟨inside, rfl⟩ := List.getElem?_eq_some_iff.1 given
  have position : arguments.keyword = arguments.keyword.take index ++ arguments.keyword[index] ::
      arguments.keyword.drop (index + 1) := by
    rw [List.getElem_cons_drop, List.take_append_drop]
  exact bindable.filled_once _ _ _ place position aimed

/-- No two keywords are aimed at one parameter. -/
theorem targets_differ (bindable : Bindable parameters arguments) :
    arguments.keyword.Pairwise fun first second => target? parameters first.1 ≠ target? parameters second.1 := by
  refine List.pairwise_iff_getElem.2 fun first second inside insideToo less same => ?_
  obtain ⟨place, aimed⟩ := bindable.aimed (List.getElem_mem insideToo)
  have earlier : arguments.keyword[first] ∈ arguments.keyword.take second :=
    List.mem_take_iff_getElem.2 ⟨first, lt_min less inside, rfl⟩
  exact bindable.not_filled (List.getElem?_eq_getElem insideToo) aimed (.inr ⟨_, earlier, same.trans aimed⟩)

theorem positional_eq_none (bindable : Bindable parameters arguments) {index place : Nat} {entry : String × Value}
    (given : arguments.keyword[index]? = some entry) (aimed : target? parameters entry.1 = some place) :
    arguments.positional[place]? = none := by
  rw [List.getElem?_eq_none_iff, ← Nat.not_lt]
  exact fun inside => bindable.not_filled given aimed (.inl inside)

theorem keyword_unique (bindable : Bindable parameters arguments) {first second place : Nat} {entry other : String × Value}
    (given : arguments.keyword[first]? = some entry) (givenToo : arguments.keyword[second]? = some other)
    (aimed : target? parameters entry.1 = some place) (aimedToo : target? parameters other.1 = some place) :
    first = second := by
  obtain ⟨inside, rfl⟩ := List.getElem?_eq_some_iff.1 given
  obtain ⟨insideToo, rfl⟩ := List.getElem?_eq_some_iff.1 givenToo
  have differ := List.pairwise_iff_getElem.1 bindable.targets_differ
  rcases Nat.lt_trichotomy first second with less | same | greater
  · exact absurd (aimed.trans aimedToo.symm) (differ _ _ inside insideToo less)
  · exact same
  · exact absurd (aimedToo.trans aimed.symm) (differ _ _ insideToo inside greater)

theorem origin_unique (bindable : Bindable parameters arguments) {place : Nat} {first second : Origin} {value other : Value}
    (one : Offers parameters arguments place first value) (another : Offers parameters arguments place second other) :
    first = second := by
  cases one with
  | positional given =>
    cases another with
    | positional _ => rfl
    | keyword givenToo aimed =>
      rw [bindable.positional_eq_none givenToo aimed] at given
      cases given
    | default _ unfilled _ => exact absurd (.inl (List.getElem?_eq_some_iff.1 given).1) unfilled
  | keyword given aimed =>
    cases another with
    | positional givenToo =>
      rw [bindable.positional_eq_none given aimed] at givenToo
      cases givenToo
    | keyword givenToo aimedToo => exact congrArg _ (bindable.keyword_unique given givenToo aimed aimedToo)
    | default _ unfilled _ => exact absurd (.inr ⟨_, List.mem_of_getElem? given, aimed⟩) unfilled
  | default _ unfilled _ =>
    cases another with
    | positional given => exact absurd (.inl (List.getElem?_eq_some_iff.1 given).1) unfilled
    | keyword given aimed => exact absurd (.inr ⟨_, List.mem_of_getElem? given, aimed⟩) unfilled
    | default _ _ _ => rfl

end Bindable

/-- What an entry of a slot is made of. -/
theorem offers_of_entry? {place : Nat} {parameter : Parameter} {name : String} {value : Value}
    (here : parameters[place]? = some parameter)
    (given : Slot.entry? (parameter, supplied? parameters arguments.positional arguments.keyword place) = some (name, value)) :
    name = parameter.name ∧ ∃ origin, Offers parameters arguments place origin value := by
  simp only [Slot.entry?, Option.map_eq_some_iff, Prod.mk.injEq] at given
  obtain ⟨own, found, rfl, rfl⟩ := given
  refine ⟨rfl, ?_⟩
  rcases Option.or_eq_some_iff.1 found with supplied | ⟨unsupplied, own⟩
  · rcases Option.or_eq_some_iff.1 supplied with positional | ⟨_, aimed⟩
    · exact ⟨_, .positional positional⟩
    · obtain ⟨⟨name, value⟩, first, rfl⟩ := Option.map_eq_some_iff.1 aimed
      obtain ⟨index, given⟩ := List.getElem?_of_mem (List.mem_of_find?_eq_some first)
      have aimed := List.find?_some first
      exact ⟨_, .keyword given (eq_of_beq aimed)⟩
  · have unfilled : ¬ Filled parameters arguments.positional arguments.keyword place := by
      rw [← supplied?_isSome_iff, unsupplied]
      exact Bool.false_ne_true
    exact ⟨_, .default here unfilled own⟩

theorem boundBy_of_bindable (bindable : Bindable parameters arguments) {bound : Bound}
    (values : ∀ place : Nat, bound[place]? = parameters[place]?.bind fun parameter =>
      Slot.entry? (parameter, supplied? parameters arguments.positional arguments.keyword place)) :
    BoundBy parameters arguments bound := by
  have entered : ∀ place parameter, parameters[place]? = some parameter → ∃ value origin,
      bound[place]? = some (parameter.name, value) ∧ Offers parameters arguments place origin value := by
    intro place parameter here
    have lacks := bindable.none_lacking place parameter here
    rw [← entry?_eq_none_iff, ← ne_eq, Option.ne_none_iff_exists'] at lacks
    obtain ⟨⟨name, value⟩, given⟩ := lacks
    obtain ⟨rfl, origin, offers⟩ := offers_of_entry? here given
    refine ⟨value, origin, ?_, offers⟩
    rw [values, here]
    exact given
  refine ⟨?_, ?_, ?_, ?_⟩
  · refine List.ext_getElem? fun place => ?_
    rw [List.getElem?_map, List.getElem?_map]
    cases here : parameters[place]? with
    | none => simp [values, here]
    | some parameter =>
      obtain ⟨value, _, there, _⟩ := entered place parameter here
      simp [there]
  · intro place name value there
    cases here : parameters[place]? with
    | none => simp [values, here] at there
    | some parameter =>
      obtain ⟨_, origin, thereToo, offers⟩ := entered place parameter here
      cases there.symm.trans thereToo
      exact ⟨origin, offers, fun other offered offersToo => bindable.origin_unique offersToo offers⟩
  · intro index value given
    have inside := (List.getElem?_eq_some_iff.1 given).1
    obtain ⟨parameter, here⟩ : ∃ parameter, parameters[index]? = some parameter :=
      ⟨_, List.getElem?_eq_getElem (Nat.lt_of_lt_of_le inside bindable.positional_fit)⟩
    obtain ⟨own, origin, there, offers⟩ := entered index parameter here
    obtain rfl := bindable.origin_unique offers (.positional given)
    obtain rfl := offers.value_unique (.positional given)
    refine ⟨index, ⟨⟨_, there⟩, offers⟩, ?_⟩
    rintro other ⟨_, offersToo⟩
    cases offersToo
    rfl
  · intro index name value given
    obtain ⟨place, aimed⟩ := bindable.aimed (List.mem_of_getElem? given)
    obtain ⟨parameter, here, rfl⟩ := name_of_target? aimed
    obtain ⟨own, origin, there, offers⟩ := entered place parameter here
    obtain rfl := bindable.origin_unique offers (.keyword given aimed)
    obtain rfl := offers.value_unique (.keyword given aimed)
    refine ⟨place, ⟨there, offers⟩, ?_⟩
    rintro other ⟨_, offersToo⟩
    cases offersToo with
    | keyword givenToo aimedToo =>
      cases given.symm.trans givenToo
      exact Option.some.inj (aimedToo.symm.trans aimed)

/-! ### The order of keywords -/

variable {keywords : List (String × Value)}

theorem filled_perm {positional : List Value} {others : List (String × Value)} (same : keywords.Perm others) (place : Nat) :
    Filled parameters positional keywords place ↔ Filled parameters positional others place := by
  simp only [Filled, same.mem_iff]

theorem Bindable.perm (bindable : Bindable parameters arguments) (same : keywords.Perm arguments.keyword) :
    Bindable parameters ⟨arguments.positional, keywords⟩ where
  positional_fit := bindable.positional_fit
  keywords_known entry member := bindable.keywords_known entry (same.mem_iff.1 member)
  none_lacking place parameter here lacks :=
    bindable.none_lacking place parameter here ⟨(filled_perm same place).not.1 lacks.1, lacks.2⟩
  filled_once := by
    rintro earlier entry later place rfl aimed filled
    have differ := (same.pairwise_iff fun differ => Ne.symm differ).2 bindable.targets_differ
    have member : entry ∈ arguments.keyword := same.mem_iff.1 List.mem_append_cons_self
    obtain ⟨index, given⟩ := List.getElem?_of_mem member
    rcases filled with inside | ⟨other, before, aimedToo⟩
    · exact bindable.not_filled given aimed (.inl inside)
    · exact (List.pairwise_append.1 differ).2.2 other before entry List.mem_cons_self (aimedToo.trans aimed.symm)

theorem Arguments.Offers.perm {place : Nat} {origin : Origin} {value : Value} (offers : Offers parameters arguments place origin value)
    (same : keywords.Perm arguments.keyword) :
    ∃ other, Offers parameters ⟨arguments.positional, keywords⟩ place other value := by
  cases offers with
  | positional given => exact ⟨_, .positional given⟩
  | keyword given aimed =>
    obtain ⟨index, givenToo⟩ := List.getElem?_of_mem (same.mem_iff.2 (List.mem_of_getElem? given))
    exact ⟨_, .keyword givenToo aimed⟩
  | default here unfilled own => exact ⟨_, .default here ((filled_perm same place).not.2 unfilled) own⟩

/-- The order of the keywords is of no importance to what is bound. -/
theorem BoundBy.perm {bound other : Bound} (one : BoundBy parameters arguments bound)
    (another : BoundBy parameters ⟨arguments.positional, keywords⟩ other) (same : keywords.Perm arguments.keyword) :
    other = bound := by
  have names : bound.map (·.1) = other.map (·.1) := one.names.trans another.names.symm
  refine List.ext_getElem? fun place => ?_
  have name := congrArg (·[place]?) names
  simp only [List.getElem?_map] at name
  cases there : bound[place]? with
  | none =>
    rw [there, Option.map_none, eq_comm, Option.map_eq_none_iff] at name
    exact name
  | some entry =>
    rw [there, Option.map_some, eq_comm, Option.map_eq_some_iff] at name
    obtain ⟨⟨_, value⟩, thereToo, rfl⟩ := name
    obtain ⟨_, offers, _⟩ := one.values place _ _ there
    obtain ⟨_, offersToo⟩ := offers.perm same
    obtain ⟨_, offered, only⟩ := another.values place _ _ thereToo
    obtain rfl := only _ _ offersToo
    rw [thereToo, offered.value_unique offersToo]

/-- Arguments are bound exactly when they fit the parameters, and otherwise they are refused for their first fault.
Each parameter then has one value, and each argument goes to one parameter, in whatever order the keywords stand. -/
theorem bind_exact (parameters : List Parameter) (arguments : Arguments) :
    ((∃ bound, bind parameters arguments = .ok bound) ↔ Bindable parameters arguments) ∧
    (∀ bound, bind parameters arguments = .ok bound → BoundBy parameters arguments bound ∧
      ∀ keywords, keywords.Perm arguments.keyword → bind parameters ⟨arguments.positional, keywords⟩ = .ok bound) ∧
    ∀ error, bind parameters arguments = .error error ↔ FirstFault parameters arguments error := by
  rcases bindable_or_fault parameters arguments with bindable | ⟨error, fault⟩
  · obtain ⟨bound, made, values⟩ := bind_of_bindable bindable
    have boundBy := boundBy_of_bindable bindable values
    rw [made]
    refine ⟨⟨fun _ => bindable, fun _ => ⟨bound, rfl⟩⟩, ?_, ?_⟩
    · rintro _ ⟨⟩
      refine ⟨boundBy, fun keywords same => ?_⟩
      have bindableToo := bindable.perm same
      obtain ⟨other, madeToo, valuesToo⟩ := bind_of_bindable bindableToo
      rw [madeToo, boundBy.perm (boundBy_of_bindable bindableToo valuesToo) same]
    · intro error
      refine ⟨by rintro ⟨⟩, fun fault => ?_⟩
      rw [← made, bind_of_fault fault]
  · have refused := bind_of_fault fault
    rw [refused]
    refine ⟨⟨by rintro ⟨_, ⟨⟩⟩, fun bindable => ?_⟩, by rintro _ ⟨⟩, fun other => ⟨?_, fun faultToo => ?_⟩⟩
    · obtain ⟨bound, made, _⟩ := bind_of_bindable bindable
      rw [refused] at made
      cases made
    · rintro ⟨⟩
      exact fault
    · rw [← refused, bind_of_fault faultToo]

section

/-- Two parameters of one name, and two with a value of their own. -/
def repeating : List Parameter :=
  [⟨"a", none⟩, ⟨"b", some (.integer 10)⟩, ⟨"a", some (.integer 3)⟩, ⟨"c", none⟩]

/-- The keywords stand in another order than the parameters. -/
def crossing : Arguments :=
  ⟨[.integer 1], [("c", .integer 4), ("b", .integer 2)]⟩

def crossed : Bound :=
  [("a", .integer 1), ("b", .integer 2), ("a", .integer 3), ("c", .integer 4)]

theorem bind_of_crossing :
    bind repeating crossing = .ok crossed ∧ BoundBy repeating crossing crossed ∧
    [("b", Value.integer 2), ("c", .integer 4)].Perm crossing.keyword ∧
    bind repeating ⟨crossing.positional, [("b", .integer 2), ("c", .integer 4)]⟩ = .ok crossed := by
  have made : bind repeating crossing = .ok crossed := rfl
  have swapped : [("b", Value.integer 2), ("c", .integer 4)].Perm crossing.keyword := .swap _ _ _
  obtain ⟨boundBy, inAnyOrder⟩ := (bind_exact repeating crossing).2.1 crossed made
  exact ⟨made, boundBy, swapped, inAnyOrder _ swapped⟩

end

end CallPolicy
