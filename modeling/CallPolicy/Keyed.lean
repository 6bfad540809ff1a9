/-! Entries kept in order of their keys, each key once.

Keys are compared by code points. Because the order belongs to the type, two of them with
the same entries are equal.
-/

set_option autoImplicit false

namespace CallPolicy

namespace Keyed

variable {α : Type}

/-- Put an entry into an ordered list, in place of one with the same key. -/
def put (key : String) (value : α) : List (String × α) → List (String × α)
  | [] => [(key, value)]
  | (other, old) :: rest =>
    if key < other then (key, value) :: (other, old) :: rest
    else if key = other then (key, value) :: rest
    else (other, old) :: put key value rest

/-- The first entry of a key. -/
def look (key : String) : List (String × α) → Option α
  | [] => none
  | (other, value) :: rest => if key = other then some value else look key rest

def drop (key : String) (entries : List (String × α)) : List (String × α) :=
  entries.filter fun entry => entry.1 != key

/-- The keys of a list of entries rise. -/
def Ordered (entries : List (String × α)) : Prop :=
  entries.Pairwise fun earlier later => earlier.1 < later.1

theorem mem_put {key : String} {value : α} {entries : List (String × α)} {entry : String × α}
    (member : entry ∈ put key value entries) : entry = (key, value) ∨ entry ∈ entries := by
  induction entries with
  | nil => simpa [put] using member
  | cons head rest ih =>
    obtain ⟨other, old⟩ := head
    simp only [put] at member
    split at member
    · simpa using member
    · split at member
      · rcases List.mem_cons.1 member with same | member
        · exact .inl same
        · exact .inr (List.mem_cons_of_mem _ member)
      · rcases List.mem_cons.1 member with same | member
        · exact .inr (same ▸ List.mem_cons_self)
        · exact (ih member).imp_right (List.mem_cons_of_mem _)

theorem ordered_put {key : String} {value : α} {entries : List (String × α)}
    (ordered : Ordered entries) : Ordered (put key value entries) := by
  induction entries with
  | nil => simp [put, Ordered]
  | cons head rest ih =>
    obtain ⟨other, old⟩ := head
    obtain ⟨after, ordered⟩ := List.pairwise_cons.1 ordered
    simp only [put]
    split
    · next less =>
      refine List.pairwise_cons.2 ⟨fun entry member => ?_, List.pairwise_cons.2 ⟨after, ordered⟩⟩
      rcases List.mem_cons.1 member with same | member
      · exact same ▸ less
      · exact String.lt_trans less (after entry member)
    · next notLess =>
      split
      · next same =>
        exact List.pairwise_cons.2 ⟨fun entry member => same ▸ after entry member, ordered⟩
      · next different =>
        refine List.pairwise_cons.2 ⟨fun entry member => ?_, ih ordered⟩
        rcases mem_put member with same | member
        · exact same ▸ Decidable.byContradiction fun notGreater =>
            different (String.le_antisymm notGreater notLess)
        · exact after entry member

/-- A key beyond all others goes to the end. -/
theorem put_greatest {key : String} {value : α} {entries : List (String × α)}
    (greater : ∀ entry ∈ entries, entry.1 < key) : put key value entries = entries ++ [(key, value)] := by
  induction entries with
  | nil => rfl
  | cons entry rest ih =>
    obtain ⟨other, old⟩ := entry
    obtain ⟨here, later⟩ := List.forall_mem_cons.1 greater
    have less : other < key := here
    have different : key ≠ other := by
      intro same
      subst same
      exact String.lt_irrefl key less
    rw [put, if_neg (String.lt_asymm less), if_neg different, ih later]
    rfl

theorem ordered_drop {key : String} {entries : List (String × α)} (ordered : Ordered entries) :
    Ordered (drop key entries) :=
  ordered.filter _

theorem look_put (key other : String) (value : α) (entries : List (String × α)) :
    look key (put other value entries) = if key = other then some value else look key entries := by
  induction entries with
  | nil => simp [put, look]
  | cons head rest ih =>
    simp only [put]
    split
    · simp [look]
    · split <;> simp only [look] <;> grind

theorem look_append (key : String) (earlier later : List (String × α)) :
    look key (earlier ++ later) = (look key earlier).or (look key later) := by
  induction earlier with
  | nil => rfl
  | cons head rest ih =>
    simp only [List.cons_append, look]
    split
    · rfl
    · exact ih

theorem look_drop (key other : String) (entries : List (String × α)) :
    look key (drop other entries) = if key = other then none else look key entries := by
  induction entries with
  | nil => simp [drop, look]
  | cons head rest ih =>
    simp only [drop, List.filter_cons, look] at ih ⊢
    split
    · grind [look]
    · grind

theorem mem_of_look {key : String} {value : α} {entries : List (String × α)}
    (found : look key entries = some value) : (key, value) ∈ entries := by
  induction entries with
  | nil => simp [look] at found
  | cons head rest ih =>
    obtain ⟨other, old⟩ := head
    simp only [look] at found
    split at found
    · next same =>
      cases found
      exact same ▸ List.mem_cons_self
    · exact List.mem_cons_of_mem _ (ih found)

theorem look_of_mem {key : String} {value : α} {entries : List (String × α)} (ordered : Ordered entries)
    (member : (key, value) ∈ entries) : look key entries = some value := by
  induction entries with
  | nil => simp at member
  | cons head rest ih =>
    obtain ⟨other, old⟩ := head
    obtain ⟨after, ordered⟩ := List.pairwise_cons.1 ordered
    rcases List.mem_cons.1 member with same | member
    · cases same
      simp [look]
    · have different : key ≠ other := fun same => String.lt_irrefl other (same ▸ after _ member)
      simp [look, different, ih ordered member]

end Keyed

/-- A finite map from names. -/
structure Keyed (α : Type) where
  entries : List (String × α)
  ordered : Keyed.Ordered entries

namespace Keyed

variable {α : Type}

theorem ext_entries {first second : Keyed α} (same : first.entries = second.entries) : first = second := by
  cases first; cases second; cases same; rfl

instance [DecidableEq α] : DecidableEq (Keyed α) := fun first second =>
  if same : first.entries = second.entries then .isTrue (ext_entries same)
  else .isFalse fun equal => same (congrArg entries equal)

def empty : Keyed α :=
  ⟨[], List.Pairwise.nil⟩

instance : Inhabited (Keyed α) := ⟨empty⟩

def insert (map : Keyed α) (key : String) (value : α) : Keyed α :=
  ⟨put key value map.entries, ordered_put map.ordered⟩

def erase (map : Keyed α) (key : String) : Keyed α :=
  ⟨drop key map.entries, ordered_drop map.ordered⟩

def get? (map : Keyed α) (key : String) : Option α :=
  look key map.entries

def contains (map : Keyed α) (key : String) : Bool :=
  (map.get? key).isSome

def keys (map : Keyed α) : List String :=
  map.entries.map (·.1)

/-- Of entries with one key the last counts. -/
def ofList (entries : List (String × α)) : Keyed α :=
  entries.foldl (fun map entry => map.insert entry.1 entry.2) empty

/-- Change the value of a key that is there. -/
def modify (map : Keyed α) (key : String) (change : α → α) : Keyed α :=
  match map.get? key with
  | some value => map.insert key (change value)
  | none => map

@[simp] theorem get?_empty (key : String) : (empty : Keyed α).get? key = none := rfl

@[simp] theorem get?_insert (map : Keyed α) (key other : String) (value : α) :
    (map.insert other value).get? key = if key = other then some value else map.get? key :=
  look_put key other value map.entries

@[simp] theorem get?_erase (map : Keyed α) (key other : String) :
    (map.erase other).get? key = if key = other then none else map.get? key :=
  look_drop key other map.entries

@[simp] theorem get?_modify (map : Keyed α) (key other : String) (change : α → α) :
    (map.modify other change).get? key = if key = other then (map.get? other).map change else map.get? key := by
  unfold modify
  cases found : map.get? other with
  | none =>
    by_cases same : key = other
    · simp [same, found]
    · simp [same]
  | some value => exact get?_insert map key other (change value)

theorem get?_eq_some_iff (map : Keyed α) (key : String) (value : α) :
    map.get? key = some value ↔ (key, value) ∈ map.entries :=
  ⟨mem_of_look, look_of_mem map.ordered⟩

theorem contains_iff (map : Keyed α) (key : String) : map.contains key = true ↔ ∃ value, map.get? key = some value :=
  Option.isSome_iff_exists

theorem mem_keys_iff (map : Keyed α) (key : String) : key ∈ map.keys ↔ ∃ value, map.get? key = some value := by
  simp [keys, get?_eq_some_iff]

theorem mem_keys_insert (map : Keyed α) (key other : String) (value : α) :
    key ∈ (map.insert other value).keys ↔ key = other ∨ key ∈ map.keys := by
  simp only [mem_keys_iff, get?_insert]
  by_cases same : key = other <;> simp [same]

theorem get?_insertAll (map : Keyed α) (entries : List (String × α)) (key : String) :
    (entries.foldl (fun map entry => map.insert entry.1 entry.2) map).get? key =
      (look key entries.reverse).or (map.get? key) := by
  induction entries generalizing map with
  | nil => rfl
  | cons entry rest ih =>
    rw [List.foldl_cons, ih, get?_insert, List.reverse_cons, look_append, Option.or_assoc]
    congr 1
    simp only [look]
    split <;> rfl

theorem get?_ofList (entries : List (String × α)) (key : String) :
    (ofList entries).get? key = look key entries.reverse := by
  rw [ofList, get?_insertAll, get?_empty, Option.or_none]

theorem entries_insertAll {map : Keyed α} {entries : List (String × α)} (rises : Ordered (map.entries ++ entries)) :
    (entries.foldl (fun map entry => map.insert entry.1 entry.2) map).entries = map.entries ++ entries := by
  induction entries generalizing map with
  | nil => simp
  | cons entry rest ih =>
    -- Each entry goes to the end of what is there.
    have greater : ∀ earlier ∈ map.entries, earlier.1 < entry.1 :=
      fun earlier member => (List.pairwise_append.1 rises).2.2 earlier member entry List.mem_cons_self
    have inserted : (map.insert entry.1 entry.2).entries = map.entries ++ [entry] := put_greatest greater
    rw [List.append_cons, ← inserted] at rises ⊢
    exact ih rises

/-- A map is rebuilt from its entries. -/
theorem ofList_entries (map : Keyed α) : ofList map.entries = map :=
  ext_entries (entries_insertAll map.ordered)

/-- Where keys are in order it does not matter from which end one is looked for. -/
theorem look_reverse {entries : List (String × α)} (ordered : Ordered entries) (key : String) :
    look key entries.reverse = look key entries := by
  have rebuilt := ofList_entries ⟨entries, ordered⟩
  rw [← get?_ofList, rebuilt]
  rfl

theorem nodup_keys (map : Keyed α) : map.keys.Nodup := by
  refine List.pairwise_map.2 (map.ordered.imp ?_)
  intro earlier later less same
  exact String.lt_irrefl later.1 (same ▸ less)

theorem nodup_entries (map : Keyed α) : map.entries.Nodup :=
  List.Pairwise.of_map (·.1) (fun _ _ different same => different (congrArg _ same)) map.nodup_keys

/-- The values of the keys are all there is to a map. -/
theorem ext_get? {first second : Keyed α} (same : ∀ key, first.get? key = second.get? key) : first = second := by
  refine ext_entries (List.Perm.eq_of_pairwise ?_ first.ordered second.ordered ?_)
  · intro earlier later _ _ less greater
    exact absurd less (String.lt_asymm greater)
  · refine (List.perm_ext_iff_of_nodup first.nodup_entries second.nodup_entries).2 fun entry => ?_
    rw [← get?_eq_some_iff first, same, get?_eq_some_iff]

end Keyed

/-- A finite set of names. -/
abbrev Names := Keyed Unit

namespace Names

def ofList (names : List String) : Names :=
  names.foldl (fun set name => Keyed.insert set name ()) Keyed.empty

def toList (set : Names) : List String :=
  Keyed.keys set

def add (set : Names) (name : String) : Names :=
  Keyed.insert set name ()

def remove (set : Names) (name : String) : Names :=
  Keyed.erase set name

theorem mem_keys_addAll (set : Names) (names : List String) (name : String) :
    name ∈ (names.foldl (fun set name => Keyed.insert set name ()) set).keys ↔ name ∈ names ∨ name ∈ set.keys := by
  induction names generalizing set with
  | nil => simp
  | cons head rest ih => rw [List.foldl_cons, ih, Keyed.mem_keys_insert, List.mem_cons, or_left_comm, or_assoc]

theorem mem_keys_ofList (names : List String) (name : String) : name ∈ (ofList names).keys ↔ name ∈ names := by
  rw [ofList, mem_keys_addAll]
  simp [Keyed.mem_keys_iff]

end Names

end CallPolicy
