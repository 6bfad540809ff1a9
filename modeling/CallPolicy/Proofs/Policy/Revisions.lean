import CallPolicy.Proofs.Policy.Steps

/-! Runs of revisions.

Every revision freezes an edited draft, so a contract is as sound after any run of them as it was at
first.
-/

set_option autoImplicit false

namespace CallPolicy

namespace Contract

/-- A contract as it is first made. -/
inductive Made : Contract → Prop where
  | frozen {draft : Draft} {contract : Contract} (accepted : draft.freeze = .ok contract) : Made contract
  | described {schema : Schema} {description : Description} {contract : Contract}
      (accepted : ofDescription schema description = .ok contract) : Made contract

/-- A contract after some revisions, each of which may do anything to the draft. One that is refused
leaves the contract as it was. -/
def reviseEach (contract : Contract) (changes : List (Draft → Draft)) : Contract :=
  changes.foldl (fun contract change => (contract.revise change).toOption.getD contract) contract

theorem Made.sound {contract : Contract} (made : contract.Made) : contract.toDraft.Sound := by
  cases made with
  | frozen accepted => exact Draft.sound_of_freeze accepted
  | described accepted =>
    obtain ⟨_, draft, _, frozen⟩ := ofDescription_eq_ok_iff.1 accepted
    exact Draft.sound_of_freeze frozen

/-- One revision, refused or not. -/
theorem sound_of_revise {contract : Contract} (sound : contract.toDraft.Sound) (change : Draft → Draft) :
    ((contract.revise change).toOption.getD contract).toDraft.Sound := by
  cases revised : contract.revise change with
  | error error => exact sound
  | ok next => exact Draft.sound_of_freeze revised

theorem sound_of_reviseEach {contract : Contract} (sound : contract.toDraft.Sound) (changes : List (Draft → Draft)) :
    (contract.reviseEach changes).toDraft.Sound := by
  induction changes generalizing contract with
  | nil => exact sound
  | cons change rest ih => exact ih (sound_of_revise sound change)

/-- However a contract is revised, it declares no function twice and specifies each that it declares.
A further revision is refused for the first declared function without a specification, or gives the
edited draft without the later repetitions of a declaration. -/
theorem revisions_keep_declarations {contract : Contract} (made : contract.Made) (changes : List (Draft → Draft)) :
    (contract.reviseEach changes).toDraft.Sound ∧
      ∀ change : Draft → Draft,
        (change (contract.reviseEach changes).toDraft).Freezes ((contract.reviseEach changes).revise change) :=
  ⟨sound_of_reviseEach made.sound changes, fun change => (change _).freeze_freezes⟩

section

/-- One function is declared twice. -/
def tangled : Draft :=
  { Draft.empty with
    declaredFunctions := ["put", "get", "put"]
    specs := .ofList [("get", .empty), ("put", .empty)] }

/-- The first revision is refused, and the second one repeats declarations. -/
def tangling : List (Draft → Draft) :=
  [(·.applyEdits [.push "orphan"]), (·.applyEdits [.push "get", .push "put", .putSpec "add" .empty, .push "add"])]

/-- The contract that the draft freezes to. -/
def untangled : Contract :=
  { tangled with
    declaredFunctions := ["put", "get"]
    declared_nodup := by simp
    declared_specified := by decide }

theorem revisions_of_tangled :
    untangled.Made ∧ (untangled.reviseEach tangling).toDraft.Sound ∧
    (untangled.reviseEach tangling).declaredFunctions = ["put", "get", "add"] ∧
    (untangled.reviseEach tangling).revise (·.applyEdits [.dropSpec "add", .dropSpec "get"]) =
      .error (.missingSpec "get") ∧
    ((untangled.reviseEach tangling).toDraft.applyEdits [.dropSpec "add", .dropSpec "get"]).Freezes
      (.error (.missingSpec "get")) := by
  have frozen : tangled.freeze = .ok untangled := rfl
  have kept := revisions_keep_declarations (.frozen frozen) tangling
  have refused : (untangled.reviseEach tangling).revise (·.applyEdits [.dropSpec "add", .dropSpec "get"]) =
      .error (.missingSpec "get") := rfl
  have freezes := kept.2 (·.applyEdits [.dropSpec "add", .dropSpec "get"])
  rw [refused] at freezes
  exact ⟨.frozen frozen, kept.1, rfl, refused, freezes⟩

end

end Contract

end CallPolicy
