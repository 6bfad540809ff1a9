import CallPolicy.Proofs.CallGraph.Imports
import CallPolicy.Proofs.Report.Consistency
import CallPolicy.Proofs.Report.Filing

/-! What the analysis finds of the imports of a unit.

The sites of an outline are the imports of the whole tree in the order of their lines, and a finding
is filed for each of them that the contract does not allow.
-/

set_option autoImplicit false

namespace CallPolicy

open Syntax

namespace Analysis

/-- Only the checks of imports file imports. -/
theorem report_imports (contract : Contract) (marker : String) (outline : ModuleOutline) :
    (report contract marker outline).bucket .importing = refusedImports contract outline :=
  report_files contract marker outline .importing

theorem importSites_perm (outline : ModuleOutline) :
    (importSites outline).Perm (outline.imports ++ outline.functions.flatMap (·.graph.imports)) :=
  List.mergeSort_perm _ _

theorem importSites_ordered (outline : ModuleOutline) :
    (importSites outline).Pairwise fun earlier later => earlier.line ≤ later.line := by
  have ordered : (importSites outline).Pairwise fun earlier later => decide (earlier.line ≤ later.line) = true :=
    List.pairwise_mergeSort (fun first second third => by simpa using Nat.le_trans)
      (fun first second => by simpa using Nat.le_total first.line second.line) _
  exact ordered.imp of_decide_eq_true

end Analysis

theorem analyze_of_checkedTree {unit : SourceUnit} {tree : Node} (parsed : checkedTree unit = .ok tree)
    (contract : Contract) (marker : String) : analyze contract marker unit =
      .ok (Analysis.report contract marker (outlineTree unit.language.constructs tree)) := by
  rw [analyze, outline, parsed]
  rfl

/-- The findings are the refused ones among the imports, each as often as it is there, in the order of their lines. -/
def Contract.ImportsFound (contract : Contract) (imports : List ImportSite) (found : List ViolationRecord) : Prop :=
  ∃ sites : List ImportSite, found = sites.map (fun site => ⟨.importing, some site.line, site.moduleName, none⟩) ∧
    sites.Perm (imports.filter (·.moduleName ∉ contract.allowedImports.keys)) ∧
    sites.Pairwise fun earlier later => earlier.line ≤ later.line

theorem imports_found {constructs : Constructs} {tree : Node} (exact : constructs.ExtentsExact tree)
    (contract : Contract) (marker : String) :
    contract.ImportsFound (extractTree constructs tree).imports
      (Analysis.report contract marker (outlineTree constructs tree)).imports := by
  have refused : ∀ site : ImportSite,
      (!contract.isImportAllowed site.moduleName) = decide (site.moduleName ∉ contract.allowedImports.keys) := by
    intro site
    rw [Contract.isImportAllowed, Bool.eq_iff_iff, Bool.not_eq_true', decide_eq_true_iff, Keyed.mem_keys_iff,
      ← Keyed.contains_iff, Bool.not_eq_true]
  refine ⟨(Analysis.importSites (outlineTree constructs tree)).filter (·.moduleName ∉ contract.allowedImports.keys),
    ?_, ?_, ?_⟩
  · refine (Analysis.report_imports contract marker _).trans ?_
    simp only [Analysis.refusedImports, refused]
  · have all := (Analysis.importSites_perm _).trans (Constructs.outline_imports_perm exact)
    exact all.filter _
  · exact (Analysis.importSites_ordered _).filter _

/-- The findings of imports are exact for every tree in which the extent of a function imports what the function
does. The trees of source units are like that, so the findings of a unit are the refused ones among all its
imports. -/
theorem import_findings_exact (contract : Contract) (marker : String) :
    (∀ (constructs : Constructs) (tree : Node), constructs.ExtentsExact tree →
      contract.ImportsFound (extractTree constructs tree).imports
        (Analysis.report contract marker (outlineTree constructs tree)).imports) ∧
    ∀ (unit : SourceUnit) (tree : Node), checkedTree unit = .ok tree →
      unit.language.constructs.ExtentsExact tree ∧ ∃ (report : ViolationReport) (graph : CallGraph),
        analyze contract marker unit = .ok report ∧ extract unit = .ok graph ∧
        contract.ImportsFound graph.imports report.imports := by
  refine ⟨fun constructs tree exact => imports_found exact contract marker, fun unit tree parsed => ?_⟩
  cases checkedTree_eq_ok parsed
  have exact := extents_exact unit
  exact ⟨exact, _, _, analyze_of_checkedTree parsed contract marker, extract_of_checkedTree parsed,
    imports_found exact contract marker⟩

section

/-- Only `math` may be imported. -/
def importContract : Contract :=
  { (default : Contract) with allowedImports := .ofList ["math"] }

/-- Imports of the module, of a class, of a decorated method and of a function in it. -/
def importingUnit : SourceUnit :=
  ⟨.python, "import json\nclass A:\n import yaml\n @m\n def f():\n  from os import path\n  def h():\n   import math, json\n"⟩

/-- No two of these lines are the same, so only one order is possible. -/
theorem importingUnit_order {sites : List ImportSite}
    (same : sites.Perm [⟨"json", 1⟩, ⟨"yaml", 3⟩, ⟨"os", 6⟩, ⟨"json", 8⟩])
    (ordered : sites.Pairwise fun earlier later => earlier.line ≤ later.line) :
    sites = [⟨"json", 1⟩, ⟨"yaml", 3⟩, ⟨"os", 6⟩, ⟨"json", 8⟩] := by
  refine same.eq_of_pairwise (fun first second member other below above => ?_) ordered (by decide)
  have equal : first.line = second.line := Nat.le_antisymm below above
  have found := same.subset member
  simp only [List.mem_cons, List.not_mem_nil, or_false] at found other
  rcases found with rfl | rfl | rfl | rfl <;> rcases other with rfl | rfl | rfl | rfl <;> simp_all

theorem import_findings_of_nested :
    ∃ report : ViolationReport, analyze importContract Analysis.standardMarker importingUnit = .ok report ∧
      report.imports.map (fun record => (record.subject, record.line)) =
        [("json", some 1), ("yaml", some 3), ("os", some 6), ("json", some 8)] := by
  have seen : ((parse importingUnit).firstErrorLine,
      (extractTree importingUnit.language.constructs (parse importingUnit)).imports.filter
        (·.moduleName ∉ importContract.allowedImports.keys)) =
      (none, [⟨"json", 1⟩, ⟨"yaml", 3⟩, ⟨"os", 6⟩, ⟨"json", 8⟩]) := by decide +kernel
  obtain ⟨readable, refused⟩ := Prod.mk.inj seen
  have parsed : checkedTree importingUnit = .ok (parse importingUnit) := by rw [checkedTree, readable]
  obtain ⟨_, report, graph, analysed, extracted, sites, listed, same, ordered⟩ :=
    (import_findings_exact importContract Analysis.standardMarker).2 importingUnit _ parsed
  have whole := Except.ok.inj (extracted.symm.trans (extract_of_checkedTree parsed))
  rw [whole, refused] at same
  exact ⟨report, analysed, by rw [listed, importingUnit_order same ordered]; rfl⟩

end

end CallPolicy
