import CallPolicy.Json.Decoder
import CallPolicy.Proofs.Json.RoundTrip

/-! Documents read back by decoders.

`Decodes` says that a decoder makes something out of the document of a value, wherever a few levels
may still be opened. Each decoder that is put together from others gets this from its parts.
-/

set_option autoImplicit false

namespace CallPolicy.Json

namespace Value

/-! ### Values where any may stand -/

theorem itemValues?_succeeds {items : List Value} {depth : Nat}
    (all : ∀ item ∈ items, ∃ read, item.document.value? depth = some read) :
    ∃ read, itemValues? depth (documents items) = some read := by
  induction items with
  | nil => exact ⟨[], rfl⟩
  | cons item rest ih =>
    obtain ⟨⟨value, here⟩, later⟩ := List.forall_mem_cons.1 all
    obtain ⟨values, there⟩ := ih later
    exact ⟨value :: values, by simp [documents, itemValues?, here, there]⟩

theorem memberValues?_succeeds {members : List (String × Value)} {depth : Nat}
    (all : ∀ entry ∈ members, ∃ read, entry.2.document.value? depth = some read) (before : List (String × Value)) :
    ∃ read, memberValues? depth (memberDocuments members) before = some read := by
  induction members generalizing before with
  | nil => exact ⟨before, rfl⟩
  | cons entry rest ih =>
    obtain ⟨⟨value, here⟩, later⟩ := List.forall_mem_cons.1 all
    obtain ⟨values, there⟩ := ih later (Keyed.put entry.1 value before)
    exact ⟨values, by simp [memberDocuments, memberValues?, here, there]⟩

theorem depths_le_iff (items : List Value) (depth : Nat) :
    depths items ≤ depth ↔ ∀ item ∈ items, item.depth ≤ depth := by
  induction items with
  | nil => simp [depths]
  | cons item rest ih => rw [depths, Nat.max_le, ih, List.forall_mem_cons]

theorem memberDepths_le_iff (members : List (String × Value)) (depth : Nat) :
    memberDepths members ≤ depth ↔ ∀ entry ∈ members, entry.2.depth ≤ depth := by
  induction members with
  | nil => simp [memberDepths]
  | cons entry rest ih => rw [memberDepths, Nat.max_le, ih, List.forall_mem_cons]

/-- What is written holds a value, though its members may change places. -/
theorem Writable.value?_succeeds {value : Value} (writable : value.Writable) {depth : Nat} (fits : value.depth ≤ depth) :
    ∃ read, value.document.value? depth = some read := by
  induction writable generalizing depth with
  | null => exact ⟨_, by rw [document, Document.value?]⟩
  | bool value => exact ⟨_, by rw [document, Document.value?]⟩
  | integer low high => exact ⟨_, by rw [document, Document.value?]⟩
  | float readsBack => exact ⟨_, by rw [document, Document.value?]⟩
  | string text => exact ⟨_, by rw [document, Document.value?]; rfl⟩
  | @list items all ih =>
    cases depth with
    | zero => cases fits
    | succ depth =>
      have inner := (depths_le_iff items depth).1 (Nat.le_of_succ_le_succ fits)
      obtain ⟨read, succeeds⟩ := itemValues?_succeeds fun item member => ih item member (inner item member)
      exact ⟨.list read, by rw [document, Document.value?, succeeds]; rfl⟩
  | @object members all ih =>
    cases depth with
    | zero => cases fits
    | succ depth =>
      have inner := (memberDepths_le_iff members depth).1 (Nat.le_of_succ_le_succ fits)
      obtain ⟨read, succeeds⟩ := memberValues?_succeeds (fun entry member => ih entry member (inner entry member)) []
      exact ⟨.object read, by rw [document, Document.value?, succeeds]; rfl⟩

/-- The value has a text, and nests no deeper than so many levels. -/
structure WrittenWithin (levels : Nat) (value : Value) : Prop where
  writable : value.Writable
  shallow : value.depth ≤ levels

theorem WrittenWithin.list {levels : Nat} {items : List Value} (all : ∀ item ∈ items, item.WrittenWithin levels) :
    (Value.list items).WrittenWithin (levels + 1) where
  writable := .list fun item member => (all item member).writable
  shallow := Nat.succ_le_succ ((depths_le_iff _ _).2 fun item member => (all item member).shallow)

theorem WrittenWithin.object {levels : Nat} {members : List (String × Value)}
    (all : ∀ entry ∈ members, entry.2.WrittenWithin levels) : (Value.object members).WrittenWithin (levels + 1) where
  writable := .object fun entry member => (all entry member).writable
  shallow := Nat.succ_le_succ ((memberDepths_le_iff _ _).2 fun entry member => (all entry member).shallow)

end Value

namespace Decoder

theorem sound_document {value : Value} {levels depth : Nat} (written : value.WrittenWithin levels)
    (enough : levels ≤ depth) : sound depth value.document = some () := by
  obtain ⟨read, succeeds⟩ := written.writable.value?_succeeds (Nat.le_trans written.shallow enough)
  rw [sound, succeeds]
  rfl

/-- The decoder makes this of the value, wherever so many levels of nesting are left. -/
structure Decodes {α : Type} (decoder : Decoder α) (levels : Nat) (value : Value) (result : α) : Prop where
  written : value.WrittenWithin levels
  decodes : ∀ depth, levels ≤ depth → decoder depth value.document = some result

variable {α : Type} {decoder : Decoder α} {levels : Nat} {value : Value} {result : α}

/-- What is written of a value goes to a decoder as the document of the value. -/
theorem ofText_compactText (decoder : Decoder α) (writable : value.Writable) :
    decoder.ofText value.compactText = decoder depthLimit value.document := by
  rw [ofText, Value.compactText, String.toList_ofList, writable.reads_compact.ofText, Option.bind_some]

theorem ofText_prettyText (decoder : Decoder α) (writable : value.Writable) :
    decoder.ofText value.prettyText = decoder depthLimit value.document := by
  rw [ofText, Value.prettyText, String.toList_ofList, (writable.reads_pretty 0).ofText, Option.bind_some]

theorem Decodes.of_compactText (decodes : decoder.Decodes levels value result) (fits : levels ≤ depthLimit) :
    decoder.ofText value.compactText = some result := by
  rw [decoder.ofText_compactText decodes.written.writable]
  exact decodes.decodes depthLimit fits

theorem Decodes.of_prettyText (decodes : decoder.Decodes levels value result) (fits : levels ≤ depthLimit) :
    decoder.ofText value.prettyText = some result := by
  rw [decoder.ofText_prettyText decodes.written.writable]
  exact decodes.decodes depthLimit fits

/-! ### Scalars -/

section

variable (levels)

theorem text_decodes (text : String) : Decoder.text.Decodes levels (.string text) text where
  written := ⟨.string text, Nat.zero_le _⟩
  decodes _ _ := rfl

theorem flag_decodes (on : Bool) : Decoder.flag.Decodes levels (.bool on) on where
  written := ⟨.bool on, Nat.zero_le _⟩
  decodes _ _ := rfl

theorem natBelow_decodes {limit n : Nat} (below : n < limit) (words : limit ≤ greatestWord + 1) :
    (Decoder.natBelow limit).Decodes levels (.integer n) n where
  written := ⟨.integer (by omega) (by omega), Nat.zero_le _⟩
  decodes _ _ := if_pos below

theorem optional_null_decodes (decoder : Decoder α) : (Decoder.optional decoder).Decodes levels .null none where
  written := ⟨.null, Nat.zero_le _⟩
  decodes _ _ := rfl

theorem choice_decodes {ofName? : String → Option α} {name : String} (named : ofName? name = some result) :
    (Decoder.choice ofName?).Decodes levels (.string name) result where
  written := ⟨.string name, Nat.zero_le _⟩
  decodes _ _ := named

theorem looseChoice_decodes {ofName? : String → Option α} {name : String} (named : ofName? name = some result) :
    (Decoder.looseChoice ofName?).Decodes levels (.string name) result where
  written := ⟨.string name, Nat.zero_le _⟩
  decodes depth _ := by cases depth <;> exact named

end

theorem optional_decodes (decodes : decoder.Decodes levels value result) (given : value ≠ .null) :
    (Decoder.optional decoder).Decodes levels value (some result) where
  written := decodes.written
  decodes depth enough := by
    have read := decodes.decodes depth enough
    cases value <;> first | exact absurd rfl given | exact congrArg (Option.map some) read

/-! ### Lists and maps -/

theorem list_decodes {toJson : α → Value} {results : List α}
    (all : ∀ result ∈ results, decoder.Decodes levels (toJson result) result) :
    (Decoder.list decoder).Decodes (levels + 1) (.list (results.map toJson)) results where
  written := .list (List.forall_mem_map.2 fun result member => (all result member).written)
  decodes depth enough := by
    cases depth with
    | zero => cases enough
    | succ depth =>
      rw [Value.document, Value.documents_eq_map, Decoder.list, List.map_map]
      induction results with
      | nil => rfl
      | cons result rest ih =>
        obtain ⟨here, later⟩ := List.forall_mem_cons.1 all
        simp [here.decodes depth (Nat.le_of_succ_le_succ enough), ih later]

theorem entries_memberDocuments {toJson : α → Value} {members : List (String × α)} {depth : Nat}
    (all : ∀ entry ∈ members, decoder depth (toJson entry.2).document = some entry.2) :
    entries decoder depth (Value.memberDocuments (members.map fun entry => (entry.1, toJson entry.2))) = some members := by
  induction members with
  | nil => rfl
  | cons entry rest ih =>
    obtain ⟨here, later⟩ := List.forall_mem_cons.1 all
    simp [Value.memberDocuments, entries, here, ih later]

theorem keyed_decodes {toJson : α → Value} {map : Keyed α}
    (all : ∀ entry ∈ map.entries, decoder.Decodes levels (toJson entry.2) entry.2) :
    (Decoder.keyed decoder).Decodes (levels + 1) (.object (map.entries.map fun entry => (entry.1, toJson entry.2))) map where
  written := .object (List.forall_mem_map.2 fun entry member => (all entry member).written)
  decodes depth enough := by
    cases depth with
    | zero => cases enough
    | succ depth =>
      have read := entries_memberDocuments fun entry member =>
        (all entry member).decodes depth (Nat.le_of_succ_le_succ enough)
      rw [Value.document, Decoder.keyed, read, Option.map_some, Keyed.ofList_entries]

/-! ### Records -/

theorem look_eq_none {β : Type} {key : String} {entries : List (String × β)} (absent : key ∉ entries.map (·.1)) :
    Keyed.look key entries = none := by
  cases found : Keyed.look key entries with
  | none => rfl
  | some value => exact absurd (List.mem_map_of_mem (Keyed.mem_of_look found)) absent

/-- Of members with different names, those of known names are found. -/
theorem ofMembers_memberDocuments (names : List String) {members : List (String × Value)}
    (distinct : (members.map (·.1)).Nodup) :
    Fields.ofMembers names (Value.memberDocuments members) =
      some ((members.filter (·.1 ∈ names)).map fun entry => (entry.1, entry.2.document)) := by
  induction members with
  | nil => rfl
  | cons entry rest ih =>
    obtain ⟨new, others⟩ := List.nodup_cons.1 distinct
    have first : Keyed.look entry.1 ((rest.filter (·.1 ∈ names)).map fun entry => (entry.1, entry.2.document)) = none := by
      apply look_eq_none
      rw [List.map_map]
      exact fun member => new (List.map_subset _ (fun _ found => (List.mem_filter.1 found).1) member)
    by_cases known : entry.1 ∈ names <;> simp [Value.memberDocuments, Fields.ofMembers, ih others, known, first]

/-- The fields that are found in a record as it is written. -/
def writtenFields (depth : Nat) (members : List (String × Value)) : Fields :=
  ⟨depth, false, members.map fun entry => (entry.1, entry.2.document)⟩

theorem record_decodes {names : List String} {read : Fields → Option α} {members : List (String × Value)}
    (known : List.Sublist (members.map (·.1)) names) (distinct : names.Nodup)
    (inner : ∀ entry ∈ members, entry.2.WrittenWithin levels)
    (reads : ∀ depth, levels ≤ depth → read (writtenFields depth members) = some result) :
    (Decoder.record names read).Decodes (levels + 1) (.object members) result where
  written := .object inner
  decodes depth enough := by
    cases depth with
    | zero => cases enough
    | succ depth =>
      have all : members.filter (·.1 ∈ names) = members :=
        List.filter_eq_self.2 fun entry member => decide_eq_true (known.subset (List.mem_map_of_mem member))
      rw [Value.document, Decoder.record, Fields.ofDocument, ofMembers_memberDocuments names (distinct.sublist known), all]
      exact reads depth (Nat.le_of_succ_le_succ enough)

end Decoder

end CallPolicy.Json
