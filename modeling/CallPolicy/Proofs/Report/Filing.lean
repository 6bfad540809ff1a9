import CallPolicy.Proofs.Enforcement.Admission
import CallPolicy.Report.Analysis

/-! Which findings a report lists, and in which order.

Records are filed by kind, in the order in which they are found, and each is counted. The findings of calls in functions
of one name, and the calls permitted to it, come from the functions of that name alone.
-/

set_option autoImplicit false

namespace CallPolicy

namespace RecordKind

/-- Filing by kind keeps each record once. -/
theorem flatMap_filter_perm (entries : List ViolationRecord) :
    (all.flatMap fun kind => entries.filter (·.kind == kind)).Perm entries := by
  induction entries with
  | nil => simp
  | cons entry rest ih =>
    have moved : (all.flatMap fun kind => (entry :: rest).filter (·.kind == kind)).Perm
        (entry :: all.flatMap fun kind => rest.filter (·.kind == kind)) := by
      rw [List.perm_iff_count]
      intro other
      simp only [all, List.flatMap_cons, List.flatMap_nil, List.count_append, List.filter_cons, List.count_cons]
      cases known : entry.kind <;> simp [List.count_cons] <;> omega
    exact moved.trans (ih.cons entry)

end RecordKind

namespace ViolationReport

theorem record_bucket (report : ViolationReport) (entry : ViolationRecord) (kind : RecordKind) :
    (report.record entry).bucket kind = report.bucket kind ++ if entry.kind == kind then [entry] else [] := by
  unfold record
  cases entry.kind <;> cases kind <;> simp [bucket]

theorem recordAll_bucket (report : ViolationReport) (entries : List ViolationRecord) (kind : RecordKind) :
    (report.recordAll entries).bucket kind = report.bucket kind ++ entries.filter (·.kind == kind) := by
  induction entries generalizing report with
  | nil => simp [recordAll]
  | cons entry rest ih =>
    have later := ih (report.record entry)
    rw [record_bucket, List.append_assoc] at later
    rw [List.filter_cons, recordAll, List.foldl_cons]
    refine later.trans ?_
    split <;> simp

theorem record_totalCount (report : ViolationReport) (entry : ViolationRecord) :
    (report.record entry).totalCount = report.totalCount + 1 := by
  unfold record
  cases entry.kind <;> rfl

theorem recordAll_totalCount (report : ViolationReport) (entries : List ViolationRecord) :
    (report.recordAll entries).totalCount = report.totalCount + entries.length := by
  induction entries generalizing report with
  | nil => rfl
  | cons entry rest ih =>
    have later : ((report.record entry).recordAll rest).totalCount = report.totalCount + 1 + rest.length := by
      rw [ih, record_totalCount]
    rw [List.length_cons, Nat.add_comm rest.length, ← Nat.add_assoc]
    exact later

theorem filter_of_kind {entries : List ViolationRecord} {kind : RecordKind} (all : ∀ entry ∈ entries, entry.kind = kind)
    (other : RecordKind) : entries.filter (·.kind == other) = if kind = other then entries else [] := by
  split
  · next same => exact List.filter_eq_self.2 fun entry member => beq_iff_eq.2 ((all entry member).trans same)
  · next different =>
    exact List.filter_eq_nil_iff.2 fun entry member same => different ((all entry member).symm.trans (eq_of_beq same))

theorem records_eq_flatMap (report : ViolationReport) : report.records = RecordKind.all.flatMap report.bucket := by
  simp only [records, RecordKind.all, List.flatMap_cons, List.flatMap_nil, List.append_nil, List.append_assoc, bucket]

/-- Each record lies in the bucket of its kind. -/
def Filed (report : ViolationReport) : Prop :=
  ∀ kind, ∀ entry ∈ report.bucket kind, entry.kind = kind

theorem Filed.records_of_kind {report : ViolationReport} (filed : report.Filed) (kind : RecordKind) :
    report.records.filter (·.kind == kind) = report.bucket kind := by
  have kept := fun other => filter_of_kind (filed other) kind
  rw [records_eq_flatMap]
  simp only [RecordKind.all, List.flatMap_cons, List.flatMap_nil, List.filter_append, List.filter_nil, kept]
  cases kind <;> simp

/-- The findings of calls in functions of a name. -/
def callsOf (report : ViolationReport) (function : String) : List ViolationRecord :=
  (report.records.filter (·.kind == .call)).filter (·.context == some function)

end ViolationReport

namespace Analysis

variable {contract : Contract} {marker : String} {outline : ModuleOutline} {name : String}

/-- All findings, in the order in which they are filed. -/
def findings (contract : Contract) (marker : String) (outline : ModuleOutline) : List ViolationRecord :=
  undeclared contract outline ++ (governed contract outline).flatMap (refusedCalls contract) ++
    refusedImports contract outline ++ undefined contract outline ++ undecorated marker outline

theorem report_bucket (kind : RecordKind) :
    (report contract marker outline).bucket kind = (findings contract marker outline).filter (·.kind == kind) := by
  have filed := ViolationReport.recordAll_bucket .empty (findings contract marker outline) kind
  cases kind <;> exact filed

theorem report_totalCount (contract : Contract) (marker : String) (outline : ModuleOutline) :
    (report contract marker outline).totalCount = (findings contract marker outline).length := by
  have counted := ViolationReport.recordAll_totalCount .empty (findings contract marker outline)
  exact counted.trans (Nat.zero_add _)

theorem records_length (contract : Contract) (marker : String) (outline : ModuleOutline) :
    (report contract marker outline).records.length = (report contract marker outline).totalCount := by
  have filed : (report contract marker outline).records =
      RecordKind.all.flatMap fun kind => (findings contract marker outline).filter (·.kind == kind) := by
    rw [ViolationReport.records_eq_flatMap]
    congr 1
    funext kind
    exact report_bucket kind
  rw [filed, report_totalCount]
  exact (RecordKind.flatMap_filter_perm _).length_eq

theorem filed_report : (report contract marker outline).Filed := by
  intro kind entry member
  rw [report_bucket] at member
  exact eq_of_beq (List.mem_filter.1 member).2

theorem of_mem_refusedCalls {function : FunctionOutline} {entry : ViolationRecord}
    (member : entry ∈ refusedCalls contract function) : entry.kind = .call ∧ entry.context = some function.name := by
  obtain ⟨site, _, rfl⟩ := List.mem_map.1 member
  exact ⟨rfl, rfl⟩

/-- The findings of one check. -/
def findingsOf (contract : Contract) (marker : String) (outline : ModuleOutline) : RecordKind → List ViolationRecord
  | .call => (governed contract outline).flatMap (refusedCalls contract)
  | .importing => refusedImports contract outline
  | .undeclaredFunction => undeclared contract outline
  | .undefinedFunction => undefined contract outline
  | .undecoratedClass => undecorated marker outline

theorem kind_of_mem_findingsOf {kind : RecordKind} {entry : ViolationRecord}
    (member : entry ∈ findingsOf contract marker outline kind) : entry.kind = kind := by
  cases kind with
  | call =>
    obtain ⟨function, _, member⟩ := List.mem_flatMap.1 member
    exact (of_mem_refusedCalls member).1
  | _ =>
    obtain ⟨_, _, rfl⟩ := List.mem_map.1 member
    rfl

/-- Each check files its own kind of records, and no other one does. -/
theorem report_files (contract : Contract) (marker : String) (outline : ModuleOutline) (kind : RecordKind) :
    (report contract marker outline).bucket kind = findingsOf contract marker outline kind := by
  have all : findings contract marker outline =
      findingsOf contract marker outline .undeclaredFunction ++ findingsOf contract marker outline .call ++
        findingsOf contract marker outline .importing ++ findingsOf contract marker outline .undefinedFunction ++
        findingsOf contract marker outline .undecoratedClass := rfl
  have kept (filed : RecordKind) : (findingsOf contract marker outline filed).filter (·.kind == kind) =
      if filed = kind then findingsOf contract marker outline filed else [] :=
    ViolationReport.filter_of_kind (fun _ => kind_of_mem_findingsOf) kind
  rw [report_bucket, all]
  simp only [List.filter_append, kept]
  cases kind <;> simp

theorem refusedCalls_in_context (function : FunctionOutline) :
    (refusedCalls contract function).filter (·.context == some name) =
      if function.name = name then refusedCalls contract function else [] := by
  split
  · next same =>
    exact List.filter_eq_self.2 fun entry member =>
      beq_iff_eq.2 ((of_mem_refusedCalls member).2.trans (congrArg some same))
  · next different =>
    refine List.filter_eq_nil_iff.2 fun entry member same => different (Option.some.inj ?_)
    exact (of_mem_refusedCalls member).2.symm.trans (eq_of_beq same)

theorem callsOf_report (declared : name ∈ contract.declaredFunctions) :
    (report contract marker outline).callsOf name =
      (outline.functions.filter (·.name == name)).flatMap (refusedCalls contract) := by
  have isDeclared := (contract.mem_declared_iff name).2 declared
  rw [ViolationReport.callsOf, filed_report.records_of_kind, report_files, findingsOf, List.filter_flatMap]
  simp only [refusedCalls_in_context, governed]
  induction outline.functions with
  | nil => rfl
  | cons function rest ih =>
    by_cases same : function.name = name
    · simpa [same, isDeclared] using ih
    · cases others : contract.isDeclared function.name <;> simpa [same, others] using ih

/-- The first finding in a function is the call for which a guard refuses it. -/
theorem head?_refusedCalls (function : FunctionOutline) :
    (refusedCalls contract function).head?.map (·.subject) =
      contract.firstRefusedCall function.name function.graph := by
  rw [refusedCalls, Contract.firstRefusedCall, CallGraph.callNames, List.find?_map, List.head?_map, Option.map_map,
    List.head?_filter]
  rfl

/-- What the functions of one name add to the calls that are permitted to it. -/
theorem callGraph_get? (contract : Contract) (outline : ModuleOutline) (name : String) :
    (callGraph contract outline).get? name =
      ((governed contract outline).filter (·.name == name)).foldl
        (fun names function => some (distinct (names.getD [] ++ permittedCalls contract function))) none := by
  rw [callGraph, ← Keyed.get?_empty name]
  generalize (Keyed.empty : Keyed (List String)) = graph
  induction governed contract outline generalizing graph with
  | nil => rfl
  | cons function rest ih =>
    rw [List.foldl_cons, ih, Keyed.get?_insert, List.filter_cons]
    by_cases same : function.name = name
    · subst same
      simp
    · simp [same, Ne.symm same]

end Analysis

end CallPolicy
