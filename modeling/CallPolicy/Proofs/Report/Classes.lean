import CallPolicy.Proofs.CallGraph.Markers
import CallPolicy.Proofs.Report.Imports

/-! What the analysis finds of the classes of a unit.

The walk of an outline stops at functions. A class in a function is not looked at, with or without a
marker; any other class is found fault with unless it shows the marker.
-/

set_option autoImplicit false

namespace CallPolicy

open Syntax

theorem Language.functionName_of_className {language : Language} {node : Node} {name : String}
    (isClass : language.constructs.className node = some name) : language.constructs.functionName node = none := by
  cases language with
  | python =>
    simp only [constructs, Python.constructs] at isClass ⊢
    split at isClass
    · next ofKind => simp [eq_of_beq ofKind]
    · cases isClass
  | rust =>
    simp only [constructs, Rust.constructs] at isClass ⊢
    split at isClass
    · next ofKind =>
      rcases Bool.or_eq_true_iff.1 ofKind with ofKind | ofKind <;> simp [eq_of_beq ofKind]
    · cases isClass

namespace Analysis

/-- Only the check of classes files classes. -/
theorem report_classes (contract : Contract) (marker : String) (outline : ModuleOutline) :
    (report contract marker outline).bucket .undecoratedClass = undecorated marker outline :=
  report_files contract marker outline .undecoratedClass

end Analysis

namespace Language

variable (language : Language)

/-- The finding for a class that lacks the marker. -/
def classRecord? (occurrence : Occurrence) : Option ViolationRecord :=
  (language.constructs.className occurrence.place.node).map fun name =>
    ⟨.undecoratedClass, some occurrence.place.node.line, name, none⟩

/-- The classes of a tree that lack the marker, wherever they stand. -/
def unmarked (marker : String) (tree : Node) : List ViolationRecord :=
  (tree.everywhere.filter fun occurrence => ¬ language.Carries occurrence.place marker).filterMap language.classRecord?

theorem undecorated_outlineTree (marker : String) (tree : Node) :
    Analysis.undecorated marker (outlineTree language.constructs tree) =
      (tree.everywhere.filter fun occurrence => language.constructs.isNested occurrence = false ∧
        ¬ language.Shows occurrence.place marker).filterMap language.classRecord? := by
  rw [Analysis.undecorated, Constructs.outline_classes, Constructs.outside]
  induction tree.everywhere with
  | nil => rfl
  | cons occurrence rest ih =>
    cases nested : language.constructs.isNested occurrence with
    | true => simpa [nested] using ih
    | false =>
      cases isClass : language.constructs.className occurrence.place.node with
      | none =>
        by_cases shows : language.Shows occurrence.place marker <;>
          simpa [nested, isClass, shows, classRecord?, Constructs.outlinedClass?] using ih
      | some name =>
        have noFunction := functionName_of_className isClass
        by_cases shows : language.Shows occurrence.place marker <;>
          simpa [nested, isClass, noFunction, mem_classMarkers_iff, shows, classRecord?, Constructs.outlinedClass?] using ih

/-- In units where no class stands in a function and no comment in a mark, the findings of classes
are all classes that lack the marker. -/
theorem unmarked_eq (marker : String) (tree : Node)
    (plain : ∀ occurrence ∈ tree.everywhere, (language.constructs.className occurrence.place.node).isSome = true →
      language.constructs.isNested occurrence = false ∧
        ∀ mark ∈ language.marks occurrence.place, mark.beginsClear = true) :
    Analysis.undecorated marker (outlineTree language.constructs tree) = language.unmarked marker tree := by
  rw [undecorated_outlineTree, unmarked]
  generalize tree.everywhere = occurrences at plain
  induction occurrences with
  | nil => rfl
  | cons occurrence rest ih =>
    obtain ⟨here, later⟩ := List.forall_mem_cons.1 plain
    have same := ih later
    cases isClass : language.constructs.className occurrence.place.node with
    | none =>
      have unlisted : language.classRecord? occurrence = none := by rw [classRecord?, isClass, Option.map_none]
      rw [List.filter_cons, List.filter_cons]
      split <;> split <;> simpa only [List.filterMap_cons, unlisted] using same
    | some name =>
      obtain ⟨outer, clear⟩ := here (by rw [isClass]; rfl)
      have shows_iff : language.Shows occurrence.place marker ↔ language.Carries occurrence.place marker :=
        ⟨fun ⟨mark, member, _, marks⟩ => ⟨mark, member, marks⟩,
          fun ⟨mark, member, marks⟩ => ⟨mark, member, clear mark member, marks⟩⟩
      by_cases carries : language.Carries occurrence.place marker <;>
        simpa [outer, shows_iff, carries, classRecord?, isClass] using same

end Language

/-- A class is reported just if it lies in no function and no mark shows the marker, with its line and
name, in source order. So all unmarked classes are reported, and no others, in a unit where no class
lies in a function and no comment stands in a mark of a class before its expression. -/
theorem class_findings_exact (contract : Contract) (marker : String) (unit : SourceUnit) (tree : Node)
    (parsed : checkedTree unit = .ok tree) :
    ∃ report : ViolationReport, analyze contract marker unit = .ok report ∧
      report.undecoratedClasses =
        (tree.everywhere.filter fun occurrence => unit.language.constructs.isNested occurrence = false ∧
          ¬ unit.language.Shows occurrence.place marker).filterMap unit.language.classRecord? ∧
      ((∀ occurrence ∈ tree.everywhere, (unit.language.constructs.className occurrence.place.node).isSome = true →
          unit.language.constructs.isNested occurrence = false ∧
            ∀ mark ∈ unit.language.marks occurrence.place, mark.beginsClear = true) →
        report.undecoratedClasses = unit.language.unmarked marker tree) := by
  have filed := Analysis.report_classes contract marker (outlineTree unit.language.constructs tree)
  refine ⟨_, analyze_of_checkedTree parsed _ _, ?_, fun plain => ?_⟩
  · exact filed.trans (unit.language.undecorated_outlineTree marker tree)
  · exact filed.trans (unit.language.unmarked_eq marker tree plain)

section

/-- A marked class with one in it, and an unmarked class under a condition. -/
def markedUnit : SourceUnit :=
  ⟨.python, "@p.enforce_contract(c)\nclass A:\n class B:\n  pass\nif x:\n class C:\n  pass\n"⟩

theorem class_findings_of_marked :
    ∃ tree, checkedTree markedUnit = .ok tree ∧ ∃ report : ViolationReport,
      analyze default Analysis.standardMarker markedUnit = .ok report ∧
      report.undecoratedClasses = [⟨.undecoratedClass, some 3, "B", none⟩, ⟨.undecoratedClass, some 6, "C", none⟩] := by
  -- One evaluation reads the unit for all that is asked of its tree.
  obtain ⟨readable, plain, unmarked⟩ : (parse markedUnit).firstErrorLine = none ∧
      (∀ occurrence ∈ (parse markedUnit).everywhere,
        (Python.constructs.className occurrence.place.node).isSome = true →
          Python.constructs.isNested occurrence = false ∧
            ∀ mark ∈ Language.python.marks occurrence.place, mark.beginsClear = true) ∧
      Language.python.unmarked Analysis.standardMarker (parse markedUnit) =
        [⟨.undecoratedClass, some 3, "B", none⟩, ⟨.undecoratedClass, some 6, "C", none⟩] := by decide +kernel
  have parsed : checkedTree markedUnit = .ok (parse markedUnit) := by rw [checkedTree, readable]
  obtain ⟨report, analysed, _, whole⟩ := class_findings_exact default Analysis.standardMarker markedUnit _ parsed
  exact ⟨_, parsed, report, analysed, (whole plain).trans unmarked⟩

/-- A class in a function. -/
def hiddenUnit : SourceUnit :=
  ⟨.python, "def f():\n    class A:\n        pass\n"⟩

/-- The class lacks the marker, and is not reported. -/
theorem class_findings_of_hidden :
    ∃ tree, checkedTree hiddenUnit = .ok tree ∧
      hiddenUnit.language.unmarked Analysis.standardMarker tree = [⟨.undecoratedClass, some 2, "A", none⟩] ∧
      ∃ report : ViolationReport, analyze default Analysis.standardMarker hiddenUnit = .ok report ∧
        report.undecoratedClasses = [] := by
  obtain ⟨readable, unmarked, nothing⟩ : (parse hiddenUnit).firstErrorLine = none ∧
      Language.python.unmarked Analysis.standardMarker (parse hiddenUnit) = [⟨.undecoratedClass, some 2, "A", none⟩] ∧
      Analysis.undecorated Analysis.standardMarker (outlineTree Python.constructs (parse hiddenUnit)) = [] := by
    decide +kernel
  have parsed : checkedTree hiddenUnit = .ok (parse hiddenUnit) := by rw [checkedTree, readable]
  refine ⟨_, parsed, unmarked, _, analyze_of_checkedTree parsed _ _, ?_⟩
  exact (Analysis.report_classes _ _ _).trans nothing

end

end CallPolicy
