import CallPolicy.Documents.Enforcement
import CallPolicy.Proofs.Enforcement.Isolation
import CallPolicy.Proofs.Json.Decoding

/-! Documents that carry values of any shape.

The tags of a report, an outcome and a violation stand around the values, or beside them, so that no
value can pass for a tag. The levels that the tags add count for the reader's limit.
-/

set_option autoImplicit false

namespace CallPolicy

open Json

/-! ### Violations -/

namespace Violation

/-- JSON can carry the violation: a limit is a number that reads back. -/
def Portable : Violation → Prop
  | timeoutExceeded _ limitSeconds => limitSeconds.isFinite = true ∧ limitSeconds.ReadsBack
  | _ => True

theorem ofName?_name (kind : ViolationKind) : ViolationKind.ofName? kind.name = some kind := by
  cases kind <;> decide

section

variable {violation : Violation} {details : List (String × Value)} {levels : Nat}

/-- The kind is split off from the members, and the rest is a record of its own. -/
theorem splitKind_members (distinct : ("kind" :: "function" :: details.map (·.1)).Nodup) :
    splitKind (violation.members details).document =
      some (.string (some violation.kind.name),
        (Value.object (("function", .string violation.function) :: details)).document) := by
  have unlike : ∀ entry ∈ details, entry.1 ≠ "kind" := by
    intro entry member same
    exact (List.nodup_cons.1 distinct).1 (List.mem_cons_of_mem _ (same ▸ List.mem_map_of_mem member))
  have others : details.filter (·.1 ∈ ["kind"]) = [] := by
    simpa using unlike
  have kept : (Value.memberDocuments details).filter (fun member => member.1 != some "kind") =
      Value.memberDocuments details := by
    rw [Value.memberDocuments_eq_map, List.filter_eq_self, List.forall_mem_map]
    simpa using unlike
  have found := Decoder.ofMembers_memberDocuments ["kind"] (List.map_cons ▸ List.map_cons ▸ distinct :
    ((("kind", Value.string violation.kind.name) :: ("function", .string violation.function) :: details).map (·.1)).Nodup)
  rw [members, Value.document, splitKind, found]
  simp [Value.memberDocuments, Value.document, Keyed.look, kept]

/-- A violation reads back when the fields of its kind are those that it writes. -/
theorem decodes_of_fields (named : fieldNames violation.kind = some ("function" :: details.map (·.1)))
    (distinct : ("kind" :: "function" :: details.map (·.1)).Nodup)
    (inner : ∀ entry ∈ details, entry.2.WrittenWithin levels)
    (reads : ∀ depth, ofFields violation.kind
      (Decoder.writtenFields depth (("function", .string violation.function) :: details)) = some violation) :
    Violation.decoder.Decodes (levels + 1) (violation.members details) violation := by
  have kind := Decoder.text_decodes levels violation.kind.name
  have function := Decoder.text_decodes levels violation.function
  have written : ∀ entry ∈ ("function", .string violation.function) :: details, entry.2.WrittenWithin levels :=
    List.forall_mem_cons.2 ⟨function.written, inner⟩
  have record : (Decoder.record ("function" :: details.map (·.1)) (ofFields violation.kind)).Decodes (levels + 1)
      (.object (("function", .string violation.function) :: details)) violation :=
    Decoder.record_decodes (List.Sublist.refl _) (List.nodup_cons.1 distinct).2 written fun depth _ => reads depth
  refine ⟨.object (List.forall_mem_cons.2 ⟨kind.written, written⟩), fun depth enough => ?_⟩
  have tag : Decoder.text depth (.string (some violation.kind.name)) = some violation.kind.name := rfl
  have sound := Decoder.sound_document (.object written) enough
  have read := record.decodes depth enough
  simp [decoder, splitKind_members distinct, tag, ofName?_name, named, sound, read]

end

theorem decodes {violation : Violation} (levels : Nat) (portable : violation.Portable) :
    Violation.decoder.Decodes (levels + 1) violation.toJson violation := by
  have text := fun text => (Decoder.text_decodes levels text).written
  cases violation with
  | functionNotDeclared function => exact decodes_of_fields rfl (by simp) (by simp) fun _ => rfl
  | callNotAllowed function call => exact decodes_of_fields rfl (by simp) (by simp [text]) fun _ => rfl
  | callerNotAllowed function caller => exact decodes_of_fields rfl (by simp) (by simp [text]) fun _ => rfl
  | unboundParameters function reason => exact decodes_of_fields rfl (by simp) (by simp [text]) fun _ => rfl
  | parameterNotDeclared function parameter => exact decodes_of_fields rfl (by simp) (by simp [text]) fun _ => rfl
  | parameterInvalid function parameter expected => exact decodes_of_fields rfl (by simp) (by simp [text]) fun _ => rfl
  | returnInvalid function value expected => exact decodes_of_fields rfl (by simp) (by simp [text]) fun _ => rfl
  | timeoutExceeded function limitSeconds =>
    obtain ⟨finite, readsBack⟩ := portable
    have number : Value.ofDouble limitSeconds = .float limitSeconds := if_pos finite
    have limit : (Value.float limitSeconds).WrittenWithin levels := ⟨.float readsBack, Nat.zero_le _⟩
    rw [toJson, number]
    exact decodes_of_fields rfl (by simp) (by simpa using limit) fun _ => rfl

end Violation

/-! ### Outcomes -/

namespace Outcome

/-- JSON can carry what the outcome holds. -/
def Portable : Outcome → Prop
  | ok value => value.Portable
  | violated violation => violation.Portable

/-- An outcome is read as what it is, or not at all when it nests too deep. -/
theorem ofText_toJson {outcome : Outcome} (portable : outcome.Portable) :
    decoder.ofText outcome.toJson.compactText = if outcome.toJson.depth ≤ depthLimit then some outcome else none := by
  cases outcome with
  | ok value =>
    have portable : value.Portable := portable
    have writable : (ok value).toJson.Writable := .object (List.forall_mem_singleton.2 portable.writable)
    have levels : (ok value).toJson.depth = value.depth + 1 := by simp [toJson, Value.depth, Value.memberDepths]
    have read : decoder depthLimit (ok value).toJson.document = (value.document.value? (depthLimit - 1)).map ok := rfl
    rw [decoder.ofText_compactText writable, read, portable.value?_document, levels]
    by_cases fits : value.depth + 1 ≤ depthLimit
    · simp [fits, Nat.le_sub_of_add_le fits]
    · simp [fits, show ¬ value.depth ≤ depthLimit - 1 by unfold depthLimit at fits ⊢; omega]
  | violated violation =>
    have decodes := Violation.decodes 0 portable
    have written : (violated violation).toJson.WrittenWithin 2 := .object (List.forall_mem_singleton.2 decodes.written)
    have fits : (violated violation).toJson.depth ≤ depthLimit := Nat.le_trans written.shallow (by decide)
    have read : decoder depthLimit (violated violation).toJson.document =
      (Violation.decoder (depthLimit - 1) violation.toJson.document).map violated := rfl
    rw [decoder.ofText_compactText written.writable, if_pos fits, read, decodes.decodes _ (by decide)]
    rfl

end Outcome

/-! ### Worker reports -/

/-- Only the value in a report can nest too deep. -/
theorem WorkerReport.crosses_iff_depth (report : WorkerReport) : report.Crosses ↔ report.toJson.depth ≤ depthLimit := by
  cases report with
  | returned value =>
    have levels : (returned value).toJson.depth = value.depth + 1 := by simp [toJson, Value.depth, Value.memberDepths]
    rw [levels]
    exact Nat.lt_iff_add_one_le
  | failed error => simp [Crosses, toJson, FunctionError.toJson, Value.depth, Value.memberDepths, depthLimit]
  | panicked message => simp [Crosses, toJson, Value.depth, Value.memberDepths, depthLimit]

/-- What is sent of a report or an outcome is read as that very report or outcome when it nests no
deeper than a reader allows, and is not read at all otherwise. -/
theorem wire_documents_exact :
    (∀ report : WorkerReport, report.Portable →
      WorkerReport.ofText report.toJson.compactText = if report.toJson.depth ≤ depthLimit then some report else none) ∧
    (∀ outcome : Outcome, outcome.Portable →
      Outcome.decoder.ofText outcome.toJson.compactText =
        if outcome.toJson.depth ≤ depthLimit then some outcome else none) := by
  constructor
  · intro report portable
    rw [WorkerReport.ofText_toJson portable]
    simp only [report.crosses_iff_depth]
  · exact fun outcome portable => Outcome.ofText_toJson portable

section

open GovernedFunction (half half_readsBack tower tower_portable)

/-- A value that looks like the report of a panic. -/
def lookalike : Value :=
  .object [("payload", .string "ok"), ("status", .string "panicked")]

theorem lookalike_portable : lookalike.Portable :=
  .object (by unfold Keyed.Ordered; decide) (by simpa using ⟨.string "ok", .string "panicked"⟩)

theorem wire_documents_of_lookalike :
    WorkerReport.ofText (WorkerReport.returned lookalike).toJson.compactText = some (.returned lookalike) ∧
    Outcome.decoder.ofText (Outcome.violated (.timeoutExceeded "f" half)).toJson.compactText =
      some (.violated (.timeoutExceeded "f" half)) ∧
    Outcome.decoder.ofText (Outcome.ok tower).toJson.compactText = none := by
  obtain ⟨reports, outcomes⟩ := wire_documents_exact
  have finite : half.isFinite = true := by decide +kernel
  refine ⟨(reports (.returned lookalike) lookalike_portable).trans (if_pos (by decide)),
    (outcomes (.violated (.timeoutExceeded "f" half)) ⟨finite, half_readsBack⟩).trans (if_pos (by decide +kernel)),
    (outcomes (.ok tower) tower_portable).trans (if_neg (by decide +kernel))⟩

end

end CallPolicy
