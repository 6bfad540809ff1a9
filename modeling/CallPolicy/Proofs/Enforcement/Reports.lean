import CallPolicy.Enforcement.Isolation
import CallPolicy.Proofs.Json.Decoding

/-! Reports of workers read back.

A report puts one object around what it reports, so a value crosses over only when it nests less
deep than a reader allows. Failures and panics always do.
-/

set_option autoImplicit false

namespace CallPolicy

open Json

namespace WorkerReport

/-- What is written for a report with a status of this name. -/
def written (status : String) (payload : Value) : Value :=
  .object [("status", .string status), ("payload", payload)]

theorem decoder_written {status : Status} {name : String} {payload : Document} (depth : Nat)
    (named : Status.ofName? name = some status) :
    decoder (depth + 1) (.object [(some "status", .string (some name)), (some "payload", payload)]) =
      payloadDecoder status depth payload := by
  have found : Fields.ofMembers ["status", "payload"] [(some "status", .string (some name)), (some "payload", payload)] =
      some [("status", .string (some name)), ("payload", payload)] := rfl
  simp [decoder, Decoder.record, Fields.ofDocument, found, Fields.required, Keyed.look, Decoder.choice, named, payloadFirst]

theorem ofText_written {status : Status} {name : String} {payload : Value} (writable : payload.Writable)
    (named : Status.ofName? name = some status) :
    ofText (written name payload).compactText = payloadDecoder status (depthLimit - 1) payload.document := by
  have whole : (written name payload).Writable := by
    refine .object ?_
    rw [List.forall_mem_cons, List.forall_mem_singleton]
    exact ⟨.string name, writable⟩
  rw [ofText, Decoder.ofText_compactText decoder whole]
  exact decoder_written (depthLimit - 1) named

/-- The payload is one that JSON can carry. -/
def Portable : WorkerReport → Prop
  | returned value => value.Portable
  | failed _ => True
  | panicked _ => True

/-- The report nests no deeper than a reader allows. -/
def Crosses : WorkerReport → Prop
  | returned value => value.depth < depthLimit
  | failed _ => True
  | panicked _ => True

instance (report : WorkerReport) : Decidable report.Crosses := by
  cases report <;> unfold Crosses <;> infer_instance

/-- A report that is read is the one that was sent. -/
theorem ofText_toJson {report : WorkerReport} (portable : report.Portable) :
    ofText report.toJson.compactText = if report.Crosses then some report else none := by
  cases report with
  | returned value =>
    have portable : value.Portable := portable
    have named : Status.ofName? "returned" = some .returned := rfl
    have limits : value.depth ≤ depthLimit - 1 ↔ value.depth < depthLimit := by
      unfold depthLimit
      omega
    rw [toJson, ← written, ofText_written portable.writable named]
    simp only [payloadDecoder, Decoder.value, portable.value?_document, Crosses, limits]
    by_cases crosses : value.depth < depthLimit <;> simp [crosses]
  | failed error =>
    have named : Status.ofName? "failed" = some .failed := rfl
    have writable : error.toJson.Writable := by
      refine .object ?_
      rw [List.forall_mem_singleton]
      exact .string error.message
    rw [toJson, ← written, ofText_written writable named]
    rfl
  | panicked message =>
    have named : Status.ofName? "panicked" = some .panicked := rfl
    rw [toJson, ← written, ofText_written (.string message) named]
    rfl

theorem transmit_of_crosses {report : WorkerReport} (portable : report.Portable) (crosses : report.Crosses) :
    report.transmit = .ok report := by
  rw [transmit, ofText_toJson portable, if_pos crosses]

theorem transmit_of_deep {report : WorkerReport} (portable : report.Portable) (deep : ¬ report.Crosses) :
    ∃ column, report.transmit = .error (.unreadable column) := by
  rw [transmit, ofText_toJson portable, if_neg deep]
  exact ⟨_, rfl⟩

end WorkerReport

end CallPolicy
