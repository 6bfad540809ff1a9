import CallPolicy.Json.Reader
import CallPolicy.Policy.Description
import Mathlib.Data.List.Induction

/-! Paths into descriptions, and edits at the end of a path.

An edit goes down through maps and makes those that are missing. Nothing off its path changes. The
keys of each map stay in order, as they are in a description that is read.
-/

set_option autoImplicit false

namespace CallPolicy

open Json (Value Document)

/-! ### Order of keys -/

/-- The keys of each map rise. -/
inductive Descriptor.Sorted : Descriptor → Prop where
  | null : Sorted .null
  | bool (value : Bool) : Sorted (.bool value)
  | number (value : Binary64) : Sorted (.number value)
  | text (value : String) : Sorted (.text value)
  | list {items : List Descriptor} (all : ∀ item ∈ items, Sorted item) : Sorted (.list items)
  | map {entries : List (String × Descriptor)} (ordered : Keyed.Ordered entries)
      (all : ∀ entry ∈ entries, Sorted entry.2) : Sorted (.map entries)
  | predicate (test : Predicate) : Sorted (.predicate test)

/-- The whole description as one tree. -/
def Description.tree (description : Description) : Descriptor :=
  .map description.entries

def Description.Sorted (description : Description) : Prop :=
  description.tree.Sorted

namespace Descriptor

variable {entries : List (String × Descriptor)}

theorem Sorted.put {value : Descriptor} (key : String) (sorted : (Descriptor.map entries).Sorted)
    (valueSorted : value.Sorted) : (Descriptor.map (Keyed.put key value entries)).Sorted := by
  cases sorted with
  | map ordered all =>
    refine .map (Keyed.ordered_put ordered) fun entry member => ?_
    rcases Keyed.mem_put member with rfl | member
    · exact valueSorted
    · exact all entry member

theorem Sorted.under {key : String} {value : Descriptor} (sorted : (Descriptor.map entries).Sorted)
    (found : Keyed.look key entries = some value) : value.Sorted := by
  cases sorted with
  | map _ all => exact all _ (Keyed.mem_of_look found)

theorem Sorted.ordered (sorted : (Descriptor.map entries).Sorted) : Keyed.Ordered entries := by
  cases sorted with
  | map ordered _ => exact ordered

theorem sorted_nothing : (map []).Sorted :=
  .map .nil (by simp)

theorem ofMembers_put (key : String) (value : Value) (members : List (String × Value)) :
    ofMembers (Keyed.put key value members) = Keyed.put key (ofJson value) (ofMembers members) := by
  induction members with
  | nil => rfl
  | cons member rest ih =>
    obtain ⟨other, old⟩ := member
    simp only [Keyed.put, ofMembers]
    split
    · rfl
    · split
      · rfl
      · rw [ofMembers, ih]

mutual

/-- What is read as a value has its keys in order, because members are put in as they come. -/
theorem sorted_of_value? : ∀ (depth : Nat) (document : Document) (value : Value),
    document.value? depth = some value → (ofJson value).Sorted
  | _, .null, _, read => by
    cases read
    exact .null
  | _, .bool _, _, read => by
    cases read
    exact .bool _
  | _, .number (some (.integer _)), _, read => by
    cases read
    exact .number _
  | _, .number (some (.float _)), _, read => by
    cases read
    exact .number _
  | _, .number none, _, read => by cases read
  | _, .string _, _, read => by
    obtain ⟨_, _, rfl⟩ := Option.map_eq_some_iff.1 read
    exact Sorted.text _
  | 0, .list _, _, read => by cases read
  | 0, .object _, _, read => by cases read
  | depth + 1, .list items, _, read => by
    obtain ⟨values, itemsRead, rfl⟩ := Option.map_eq_some_iff.1 read
    exact .list (sorted_of_itemValues? depth items values itemsRead)
  | depth + 1, .object members, _, read => by
    obtain ⟨values, membersRead, rfl⟩ := Option.map_eq_some_iff.1 read
    exact sorted_of_memberValues? depth members [] values sorted_nothing membersRead

theorem sorted_of_itemValues? : ∀ (depth : Nat) (items : List Document) (values : List Value),
    Json.itemValues? depth items = some values → ∀ item ∈ ofItems values, item.Sorted
  | _, [], _, read => by
    cases read
    simp [ofItems]
  | depth, document :: rest, _, read => by
    obtain ⟨value, valueRead, read⟩ := Option.bind_eq_some_iff.1 read
    obtain ⟨values, restRead, read⟩ := Option.bind_eq_some_iff.1 read
    cases read
    exact List.forall_mem_cons.2
      ⟨sorted_of_value? depth document value valueRead, sorted_of_itemValues? depth rest values restRead⟩

theorem sorted_of_memberValues? : ∀ (depth : Nat) (members : List (Option String × Document))
    (before after : List (String × Value)), (map (ofMembers before)).Sorted →
    Json.memberValues? depth members before = some after → (map (ofMembers after)).Sorted
  | _, [], _, _, sorted, read => by
    cases read
    exact sorted
  | depth, (key, document) :: rest, before, after, sorted, read => by
    obtain ⟨key, _, read⟩ := Option.bind_eq_some_iff.1 read
    obtain ⟨value, valueRead, read⟩ := Option.bind_eq_some_iff.1 read
    refine sorted_of_memberValues? depth rest _ after ?_ read
    rw [ofMembers_put]
    exact sorted.put key (sorted_of_value? depth document value valueRead)

end

end Descriptor

/-! ### Paths -/

namespace Descriptor

/-- What is under a key, where there is a map with this key. -/
def under? (there : Option Descriptor) (key : String) : Option Descriptor :=
  there.bind fun value => value.map?.bind (Keyed.look key)

/-- What is at a path down from what there is. -/
def at? (there : Option Descriptor) (path : List String) : Option Descriptor :=
  path.foldl under? there

/-- The entries of a map. There are none yet where nothing is. -/
def entries? (there : Option Descriptor) : Option (List (String × Descriptor)) :=
  there.elim (some []) map?

/-- Put a value at a path down from what there is, and make the maps that are missing on the way. -/
def putAt (value : Descriptor) : List String → Option Descriptor → Option Descriptor
  | [], _ => some value
  | key :: path, there =>
    (entries? there).bind fun entries =>
      (putAt value path (Keyed.look key entries)).map fun below => .map (Keyed.put key below entries)

/-- Something before the end of the path is no map. -/
def Blocked (there : Option Descriptor) (path : List String) : Prop :=
  ∃ earlier key later found, path = earlier ++ key :: later ∧ at? there earlier = some found ∧
    ∀ entries, found ≠ .map entries

/-- There is a value at the path and maps before it, and all else is as it was. -/
structure PutAt (value : Descriptor) (path : List String) (before after : Option Descriptor) : Prop where
  here : at? after path = some value
  above : ∀ earlier key later, path = earlier ++ key :: later → ∃ entries, at? after earlier = some (.map entries)
  elsewhere : ∀ other, ¬ path <+: other → ¬ other <+: path → at? after other = at? before other

variable {value after : Descriptor} {there : Option Descriptor} {path : List String}

theorem at?_cons (there : Option Descriptor) (key : String) (path : List String) :
    at? there (key :: path) = at? (under? there key) path := rfl

theorem entries?_eq_none_iff :
    entries? there = none ↔ ∃ found, there = some found ∧ ∀ entries, found ≠ .map entries := by
  cases there with
  | none => simp [entries?]
  | some found => cases found <;> simp [entries?, map?]

theorem under?_of_entries {entries : List (String × Descriptor)} (opened : entries? there = some entries) (key : String) :
    under? there key = Keyed.look key entries := by
  cases there with
  | none =>
    cases opened
    rfl
  | some found =>
    cases found with
    | map own =>
      cases opened
      rfl
    | _ => cases opened

theorem blocked_cons_iff (key : String) : Blocked there (key :: path) ↔
    entries? there = none ∨ Blocked (under? there key) path := by
  rw [entries?_eq_none_iff]
  constructor
  · rintro ⟨earlier, last, later, found, position, here, noMap⟩
    cases earlier with
    | nil => exact .inl ⟨found, here, noMap⟩
    | cons first earlier =>
      cases position
      exact .inr ⟨earlier, last, later, found, rfl, here, noMap⟩
  · rintro (⟨found, here, noMap⟩ | ⟨earlier, last, later, found, rfl, here, noMap⟩)
    · exact ⟨[], key, path, found, rfl, here, noMap⟩
    · exact ⟨key :: earlier, last, later, found, rfl, here, noMap⟩

theorem putAt_cons_of_opened {entries : List (String × Descriptor)} (opened : entries? there = some entries) (key : String) :
    putAt value (key :: path) there =
      (putAt value path (Keyed.look key entries)).map fun below => .map (Keyed.put key below entries) := by
  rw [putAt, opened, Option.bind_some]

theorem putAt_cons_of_closed (closed : entries? there = none) (key : String) : putAt value (key :: path) there = none := by
  rw [putAt, closed, Option.bind_none]

theorem putAt_eq_none_iff (value : Descriptor) : putAt value path there = none ↔ Blocked there path := by
  induction path generalizing there with
  | nil => simp [putAt, Blocked]
  | cons key rest ih =>
    rw [blocked_cons_iff]
    cases opened : entries? there with
    | none => simp [putAt_cons_of_closed opened]
    | some entries =>
      rw [under?_of_entries opened key, ← ih, or_iff_right (Option.some_ne_none entries), putAt_cons_of_opened opened,
        Option.map_eq_none_iff]

theorem putAt_cons_eq_some_iff (key : String) : putAt value (key :: path) there = some after ↔
    ∃ entries below, entries? there = some entries ∧ putAt value path (Keyed.look key entries) = some below ∧
      after = .map (Keyed.put key below entries) := by
  rw [putAt, Option.bind_eq_some_iff]
  constructor
  · rintro ⟨entries, opened, done⟩
    obtain ⟨below, doneBelow, made⟩ := Option.map_eq_some_iff.1 done
    exact ⟨entries, below, opened, doneBelow, made.symm⟩
  · rintro ⟨entries, below, opened, doneBelow, rfl⟩
    exact ⟨entries, opened, Option.map_eq_some_iff.2 ⟨below, doneBelow, rfl⟩⟩

theorem putAt_of_eq_some (done : putAt value path there = some after) : PutAt value path there (some after) := by
  induction path generalizing there after with
  | nil =>
    cases done
    exact ⟨rfl, by simp, fun other apart => absurd List.nil_prefix apart⟩
  | cons key rest ih =>
    obtain ⟨entries, below, opened, doneBelow, rfl⟩ := (putAt_cons_eq_some_iff key).1 done
    have inner := ih doneBelow
    have under : ∀ other, under? (some (.map (Keyed.put key below entries))) other =
        if other = key then some below else Keyed.look other entries :=
      fun other => Keyed.look_put other key below entries
    refine ⟨?_, ?_, ?_⟩
    · rw [at?_cons, under, if_pos rfl]
      exact inner.here
    · intro earlier last later position
      cases earlier with
      | nil => exact ⟨_, rfl⟩
      | cons first earlier =>
        cases position
        rw [at?_cons, under, if_pos rfl]
        exact inner.above earlier last later rfl
    · intro other apart apartToo
      cases other with
      | nil => exact absurd List.nil_prefix apartToo
      | cons first other =>
        rw [at?_cons, at?_cons, under, under?_of_entries opened]
        by_cases same : first = key
        · subst same
          rw [List.cons_prefix_cons] at apart apartToo
          rw [if_pos rfl, inner.elsewhere other (fun below => apart ⟨rfl, below⟩) fun below => apartToo ⟨rfl, below⟩]
        · rw [if_neg same]

theorem Sorted.putAt (sorted : ∀ found ∈ there, found.Sorted) (valueSorted : value.Sorted)
    (done : Descriptor.putAt value path there = some after) : after.Sorted := by
  induction path generalizing there after with
  | nil =>
    cases done
    exact valueSorted
  | cons key rest ih =>
    obtain ⟨entries, below, opened, doneBelow, rfl⟩ := (putAt_cons_eq_some_iff key).1 done
    have entriesSorted : (Descriptor.map entries).Sorted := by
      cases there with
      | none =>
        cases opened
        exact sorted_nothing
      | some found =>
        cases found with
        | map own =>
          cases opened
          exact sorted _ rfl
        | _ => cases opened
    exact entriesSorted.put key (ih (fun found given => entriesSorted.under given) doneBelow)

end Descriptor

namespace Description

variable {description : Description}

/-- Attach a predicate at a path, and say whether that was possible. -/
def attach (description : Description) (path : List String) (test : Predicate) : Description × Bool :=
  match Descriptor.putAt (.predicate test) path (some description.tree) with
  | some (.map entries) => (⟨entries⟩, true)
  | _ => (description, false)

/-- What attaching comes to: a refusal that changes nothing, or a change at the path alone. -/
inductive Attaches (description : Description) (path : List String) (test : Predicate) : Description × Bool → Prop where
  | refused (blocked : Descriptor.Blocked (some description.tree) path) :
      Attaches description path test (description, false)
  | attached {edited : Description} (free : ¬ Descriptor.Blocked (some description.tree) path)
      (put : Descriptor.PutAt (.predicate test) path (some description.tree) (some edited.tree)) :
      Attaches description path test (edited, true)

theorem attach_attaches (description : Description) (key : String) (path : List String) (test : Predicate) :
    description.Attaches (key :: path) test (description.attach (key :: path) test) := by
  rw [attach]
  cases done : Descriptor.putAt (.predicate test) (key :: path) (some description.tree) with
  | none => exact .refused ((Descriptor.putAt_eq_none_iff _).1 done)
  | some after =>
    have put := Descriptor.putAt_of_eq_some done
    have free : ¬ Descriptor.Blocked (some description.tree) (key :: path) := by
      rw [← Descriptor.putAt_eq_none_iff (.predicate test), done]
      exact Option.some_ne_none after
    obtain ⟨entries, below, _, _, rfl⟩ := (Descriptor.putAt_cons_eq_some_iff key).1 done
    exact .attached free put

theorem mapAt?_eq_entries? (key : String) (entries : List (String × Descriptor)) :
    mapAt? key entries = Descriptor.entries? (Keyed.look key entries) := by
  rw [mapAt?]
  cases Keyed.look key entries <;> rfl

theorem setReturns_eq_attach (description : Description) (function : String) (test : Predicate) :
    description.setReturns function test = description.attach [function, "returns"] test := by
  have top : Descriptor.entries? (some description.tree) = some description.entries := rfl
  rw [setReturns, attach, mapAt?_eq_entries?, Descriptor.putAt_cons_of_opened top]
  cases opened : Descriptor.entries? (Keyed.look function description.entries) with
  | none =>
    rw [Descriptor.putAt_cons_of_closed opened]
    rfl
  | some entries =>
    rw [Descriptor.putAt_cons_of_opened opened]
    rfl

theorem setParameter_eq_attach (description : Description) (function parameter : String) (test : Predicate) :
    description.setParameter function parameter test = description.attach [function, "params", parameter] test := by
  have top : Descriptor.entries? (some description.tree) = some description.entries := rfl
  rw [setParameter, attach, mapAt?_eq_entries?, Descriptor.putAt_cons_of_opened top]
  cases opened : Descriptor.entries? (Keyed.look function description.entries) with
  | none =>
    rw [Descriptor.putAt_cons_of_closed opened]
    rfl
  | some entries =>
    rw [Descriptor.putAt_cons_of_opened opened]
    dsimp only
    rw [mapAt?_eq_entries?]
    cases openedToo : Descriptor.entries? (Keyed.look "params" entries) with
    | none =>
      rw [Descriptor.putAt_cons_of_closed openedToo]
      rfl
    | some parameters =>
      rw [Descriptor.putAt_cons_of_opened openedToo]
      rfl

theorem sorted_ofJson {value : Value} (sorted : (Descriptor.ofJson value).Sorted) : (ofJson value).Sorted := by
  rw [Sorted, ofJson]
  cases converted : Descriptor.ofJson value with
  | map entries =>
    rw [converted] at sorted
    exact sorted
  | _ => exact Descriptor.sorted_nothing

/-- A description that is read from a text. -/
theorem sorted_ofText {text : String} {value : Value} (read : Value.ofText text = some value) : (ofJson value).Sorted := by
  obtain ⟨document, _, read⟩ := Option.bind_eq_some_iff.1 read
  exact sorted_ofJson (Descriptor.sorted_of_value? _ document value read)

theorem Sorted.attach (sorted : description.Sorted) (key : String) (path : List String) (test : Predicate) :
    (description.attach (key :: path) test).1.Sorted := by
  rw [Description.attach]
  cases done : Descriptor.putAt (.predicate test) (key :: path) (some description.tree) with
  | none => exact sorted
  | some after =>
    have afterSorted := Descriptor.Sorted.putAt (fun found given => Option.some.inj given ▸ sorted) (.predicate test) done
    obtain ⟨entries, below, _, _, rfl⟩ := (Descriptor.putAt_cons_eq_some_iff key).1 done
    exact afterSorted

/-- The ways in which a description is made: it is empty or read from a text, and is then edited. What
is set under a key has its own keys in order. -/
inductive Made : Description → Prop where
  | empty : Made .empty
  | read {text : String} {value : Value} (valueRead : Value.ofText text = some value) : Made (.ofJson value)
  | set {description : Description} (made : Made description) (key : String) {value : Descriptor}
      (sorted : value.Sorted) : Made (description.set key value)
  | parameter {description : Description} (made : Made description) (function parameter : String) (test : Predicate) :
      Made (description.setParameter function parameter test).1
  | returns {description : Description} (made : Made description) (function : String) (test : Predicate) :
      Made (description.setReturns function test).1

theorem Made.sorted (made : description.Made) : description.Sorted := by
  induction made with
  | empty => exact Descriptor.sorted_nothing
  | read valueRead => exact sorted_ofText valueRead
  | set _ key valueSorted ih => exact Descriptor.Sorted.put key ih valueSorted
  | parameter _ function parameter test ih =>
    rw [setParameter_eq_attach]
    exact ih.attach function _ test
  | returns _ function test ih =>
    rw [setReturns_eq_attach]
    exact ih.attach function _ test

/-- Just the descriptions with their keys in order can be made. -/
theorem made_iff_sorted : description.Made ↔ description.Sorted := by
  refine ⟨Made.sorted, fun sorted => ?_⟩
  obtain ⟨entries⟩ := description
  induction entries using List.reverseRecOn with
  | nil => exact .empty
  | append_singleton earlier entry ih =>
    obtain ⟨key, value⟩ := entry
    cases sorted with
    | map ordered all =>
      obtain ⟨earlierOrdered, _, before⟩ := List.pairwise_append.1 ordered
      obtain ⟨earlierSorted, last⟩ := List.forall_mem_append.1 all
      have made := (ih (.map earlierOrdered earlierSorted)).set key (last _ List.mem_cons_self)
      rw [Description.set, Keyed.put_greatest fun other member => before other member _ List.mem_cons_self] at made
      exact made

end Description

end CallPolicy
