import CallPolicy.Proofs.CallGraph.Comments
import CallPolicy.Proofs.CallGraph.Definitions
import CallPolicy.Proofs.Syntax.Callees
import CallPolicy.Proofs.Syntax.TokenOrder
import Mathlib.Data.List.Forall2

/-! A call graph has one entry for each call, in source order.

A callee that does not resolve has an entry of its own, so no call is left out as long as each has
something that it calls. Entries take their lines from nodes, and lines never fall along a walk.
-/

set_option autoImplicit false

namespace CallPolicy

open Syntax

/-! ### Bases -/

/-- Steps from a node toward its base end at a name. -/
inductive Resolves (step : Node → BaseStep) : Node → String → Prop where
  | here {node : Node} {text : String} : step node = .named text → Resolves step node text
  | further {node next : Node} {text : String} : step node = .down next → Resolves step next text →
    Resolves step node text

section

variable {step : Node → BaseStep} {fuel : Nat} {node : Node} {text : String}

theorem followBase_of_resolves (steps : Steps step) (resolves : Resolves step node text) (enough : node.size ≤ fuel) :
    followBase step fuel node = text := by
  induction resolves generalizing fuel with
  | @here node text named =>
    have positive := node.size_pos
    obtain ⟨fuel, rfl⟩ : ∃ less, fuel = less + 1 := ⟨fuel - 1, by omega⟩
    rw [followBase, named]
  | @further node next text goes _ ih =>
    have smaller := Node.size_lt_of_mem_children (steps.falls goes)
    obtain ⟨fuel, rfl⟩ : ∃ less, fuel = less + 1 := ⟨fuel - 1, by omega⟩
    rw [followBase, goes]
    exact ih (by omega)

theorem followBase_of_not_resolves (unresolved : ∀ text, ¬ Resolves step node text) :
    followBase step fuel node = unresolvedCallee := by
  induction fuel generalizing node with
  | zero => rfl
  | succ fuel ih =>
    rw [followBase]
    cases taken : step node with
    | named text => exact absurd (.here taken) (unresolved text)
    | down next => exact ih fun text resolves => unresolved text (.further taken resolves)
    | unresolved => rfl

end

namespace Language

def baseStep : Language → Node → BaseStep
  | .python => Python.baseStep
  | .rust => Rust.baseStep

/-- Calls of Python; calls and uses of macros of Rust. -/
def isCall : Language → Node → Bool
  | .python, node => node.kind == .call
  | .rust, node => node.kind == .callExpression || node.kind == .macroInvocation

/-- The name under which a call is recorded: that of the base of its callee if there is one, and for a
macro the last segment of its path with its mark. -/
inductive RecordedAs (language : Language) (node : Node) : String → Prop where
  | resolved {callee : Node} {name : String} : node.kind.calledPart? = some .callee →
    node.child? .callee = some callee → Resolves language.baseStep callee name → RecordedAs language node name
  | unresolved {callee : Node} : node.kind.calledPart? = some .callee → node.child? .callee = some callee →
    (∀ name, ¬ Resolves language.baseStep callee name) → RecordedAs language node "<expression>"
  | macroUse {path : Node} : node.kind.calledPart? = some .macroName → node.child? .macroName = some path →
    RecordedAs language node (Rust.lastSegment path ++ "!")

variable {language : Language} {node : Node}

theorem baseStep_steps (language : Language) : Steps language.baseStep := by
  cases language
  · exact Python.baseStep_steps
  · exact Rust.baseStep_steps

theorem recordedAs_followBase {callee : Node} (part : node.kind.calledPart? = some .callee)
    (calls : node.child? .callee = some callee) :
    language.RecordedAs node (followBase language.baseStep callee.size callee) := by
  by_cases resolves : ∃ name, Resolves language.baseStep callee name
  · obtain ⟨name, resolves⟩ := resolves
    rw [followBase_of_resolves language.baseStep_steps resolves (Nat.le_refl _)]
    exact .resolved part calls resolves
  · have unresolved := not_exists.1 resolves
    rw [followBase_of_not_resolves unresolved]
    exact .unresolved part calls unresolved

/-- A call has an entry, whether its callee resolves or not. -/
theorem callTarget_of_isCall (isCall : language.isCall node = true) (calls : node.CallsSomething) :
    ∃ name, language.constructs.callTarget node = some name ∧ language.RecordedAs node name := by
  cases language with
  | python =>
    have ofKind : node.kind = .call := eq_of_beq isCall
    have part : node.kind.calledPart? = some .callee := by rw [ofKind]; rfl
    obtain ⟨callee, found⟩ := calls .callee part
    refine ⟨Python.baseName callee, ?_, recordedAs_followBase part found⟩
    simp [constructs, Python.constructs, ofKind, found]
  | rust =>
    rcases Bool.or_eq_true_iff.1 isCall with ofKind | ofKind
    · have ofKind : node.kind = .callExpression := eq_of_beq ofKind
      have part : node.kind.calledPart? = some .callee := by rw [ofKind]; rfl
      obtain ⟨callee, found⟩ := calls .callee part
      refine ⟨Rust.baseName callee, ?_, recordedAs_followBase part found⟩
      simp [constructs, Rust.constructs, Rust.callTarget, ofKind, found]
    · have ofKind : node.kind = .macroInvocation := eq_of_beq ofKind
      have part : node.kind.calledPart? = some .macroName := by rw [ofKind]; rfl
      obtain ⟨path, found⟩ := calls .macroName part
      refine ⟨Rust.lastSegment path ++ "!", ?_, .macroUse part found⟩
      simp [constructs, Rust.constructs, Rust.callTarget, ofKind, found]

theorem callTarget_of_not_isCall (other : language.isCall node = false) : language.constructs.callTarget node = none := by
  cases language with
  | python =>
    have otherKind : ¬ node.kind = .call := by simpa [isCall] using other
    simp [constructs, Python.constructs, otherKind]
  | rust =>
    obtain ⟨noCall, noMacro⟩ := Bool.or_eq_false_iff.1 other
    simp only [constructs, Rust.constructs, Rust.callTarget]
    split <;> simp_all

end Language

/-! ### Entries -/

/-- The graph has one entry for each call of the tree, in the order of the tree and on its line. The
lines of calls and those of imports never fall, and the first line is the first one. -/
structure CallGraph.Records (language : Language) (tree : Node) (graph : CallGraph) : Prop where
  entries : List.Forall₂ (fun node call => language.RecordedAs node call.name ∧ call.line = node.line)
    (tree.preorder.filter language.isCall) graph.calls
  calls_sorted : (graph.calls.map (·.line)).Pairwise (· ≤ ·)
  imports_sorted : (graph.imports.map (·.line)).Pairwise (· ≤ ·)
  calls_lines : ∀ call ∈ graph.calls, 1 ≤ call.line
  imports_lines : ∀ entry ∈ graph.imports, 1 ≤ entry.line

section

variable {nodes : List Node}

/-- Entries on the lines of their nodes are sorted as the nodes are. -/
theorem lines_sorted_flatMap {α : Type} {line : α → Nat} {entries : Node → List α}
    (sorted : nodes.Pairwise fun earlier later => earlier.line ≤ later.line)
    (onLine : ∀ node, ∀ entry ∈ entries node, line entry = node.line) :
    ((nodes.flatMap entries).map line).Pairwise (· ≤ ·) := by
  rw [List.pairwise_map, List.pairwise_flatMap]
  constructor
  · intro node _
    refine List.pairwise_of_forall_mem_list fun first firstMember second secondMember => ?_
    rw [onLine node first firstMember, onLine node second secondMember]
  · refine sorted.imp fun {earlier later} below first firstMember second secondMember => ?_
    rwa [onLine earlier first firstMember, onLine later second secondMember]

namespace Constructs

variable (constructs : Constructs)

theorem callsAt_line (node : Node) : ∀ call ∈ constructs.callsAt node, call.line = node.line := by
  intro call member
  obtain ⟨name, _, rfl⟩ := Option.map_eq_some_iff.1 (Option.mem_toList.1 member)
  rfl

theorem importsAt_line (node : Node) : ∀ entry ∈ constructs.importsAt node, entry.line = node.line := by
  intro entry member
  obtain ⟨name, _, rfl⟩ := List.mem_map.1 member
  rfl

end Constructs

theorem Language.entries_of_calls (language : Language) (calls : ∀ node ∈ nodes, node.CallsSomething) :
    List.Forall₂ (fun node call => language.RecordedAs node call.name ∧ call.line = node.line)
      (nodes.filter language.isCall) (nodes.flatMap language.constructs.callsAt) := by
  induction nodes with
  | nil => exact .nil
  | cons node rest ih =>
    obtain ⟨here, later⟩ := List.forall_mem_cons.1 calls
    rw [List.filter_cons, List.flatMap_cons, Constructs.callsAt]
    cases isCall : language.isCall node with
    | true =>
      obtain ⟨name, target, recorded⟩ := language.callTarget_of_isCall isCall here
      rw [if_pos rfl, target]
      exact .cons ⟨recorded, rfl⟩ (ih later)
    | false =>
      rw [if_neg Bool.false_ne_true, language.callTarget_of_not_isCall isCall]
      exact ih later

end

/-- The walk is the preorder of the tree, and so is all that is collected along it. -/
theorem collect_eq_preorder (constructs : Constructs) (tree : Node) :
    (Place.all tree).map (·.node) = tree.preorder ∧
      collect constructs tree = ⟨tree.preorder.flatMap constructs.callsAt, tree.preorder.flatMap constructs.importsAt⟩ := by
  constructor
  · rw [Place.all_eq, List.map_map]
    exact tree.everywhere_nodes
  · exact congrArg₂ CallGraph.mk (constructs.collect_calls tree) (constructs.collect_imports tree)

/-- Trees in source order in which each call has what it calls give such a graph. -/
theorem collect_records (language : Language) {tree : Node} (placed : ∃ last, Node.Placed 1 [tree] last)
    (calls : tree.Obeys Node.CallsSomething) : (collect language.constructs tree).Records language tree := by
  obtain ⟨last, placed⟩ := placed
  have sorted := placed.preorder_sorted
  have begun : ∀ node ∈ tree.preorder, 1 ≤ node.line := placed.preorder_lines
  rw [(collect_eq_preorder language.constructs tree).2]
  exact {
    entries := language.entries_of_calls calls
    calls_sorted := lines_sorted_flatMap sorted language.constructs.callsAt_line
    imports_sorted := lines_sorted_flatMap sorted language.constructs.importsAt_line
    calls_lines := by
      intro call member
      obtain ⟨node, found, member⟩ := List.mem_flatMap.1 member
      rw [language.constructs.callsAt_line node call member]
      exact begun node found
    imports_lines := by
      intro entry member
      obtain ⟨node, found, member⟩ := List.mem_flatMap.1 member
      rw [language.constructs.importsAt_line node entry member]
      exact begun node found }

/-! ### Units -/

theorem parse_placed {unit : SourceUnit} (unbroken : (parse unit).broken = false) :
    ∃ last, Node.Placed 1 [parse unit] last := by
  obtain ⟨language, text⟩ := unit
  cases language
  · exact Python.parse_placed unbroken
  · exact Rust.parse_placed unbroken

theorem parse_callsSomething (unit : SourceUnit) : (parse unit).Obeys Node.CallsSomething := by
  obtain ⟨language, text⟩ := unit
  cases language
  · exact Python.parse_callsSomething _
  · exact Rust.parse_callsSomething _

theorem extract_eq_ok {unit : SourceUnit} {graph : CallGraph} (extracted : extract unit = .ok graph) :
    (parse unit).broken = false ∧ graph = collect unit.language.constructs (parse unit) := by
  cases checked : checkedTree unit with
  | error error =>
    rw [extract, checked] at extracted
    cases extracted
  | ok tree =>
    have same := checkedTree_eq_ok checked
    subst same
    rw [extract_of_checkedTree checked] at extracted
    refine ⟨?_, (Except.ok.inj extracted).symm⟩
    cases broken : (parse unit).broken with
    | false => rfl
    | true => simp [checkedTree, Node.firstErrorLine, broken] at checked

/-- The walk with a stack is the recursive one, over any tree. So a graph has one entry for each call,
resolved or not, and its lines go forward, wherever a tree is in source order and calls have what they
call. The trees of source units are like that. -/
theorem extract_records_calls :
    (∀ (constructs : Constructs) (tree : Node), (Place.all tree).map (·.node) = tree.preorder ∧
      collect constructs tree =
        ⟨tree.preorder.flatMap constructs.callsAt, tree.preorder.flatMap constructs.importsAt⟩) ∧
    (∀ (language : Language) (tree : Node), (∃ last, Node.Placed 1 [tree] last) → tree.Obeys Node.CallsSomething →
      (collect language.constructs tree).Records language tree) ∧
    ∀ (unit : SourceUnit) (graph : CallGraph), extract unit = .ok graph → graph.Records unit.language (parse unit) := by
  refine ⟨collect_eq_preorder, fun language tree => collect_records language, ?_⟩
  intro unit graph extracted
  obtain ⟨unbroken, rfl⟩ := extract_eq_ok extracted
  exact collect_records unit.language (parse_placed unbroken) (parse_callsSomething unit)

/-- Calls around calls, a macro among them, and a callee without a name. -/
def callsInCalls : SourceUnit :=
  ⟨.rust, "use a;\ng(h!())(1);\n(||1)();\n"⟩

theorem callsInCalls_recorded :
    ∃ graph, extract callsInCalls = .ok graph ∧ graph.Records .rust (parse callsInCalls) ∧
      graph.calls = [⟨"g", 2⟩, ⟨"g", 2⟩, ⟨"h!", 2⟩, ⟨"<expression>", 3⟩] := by
  have extracted : extract callsInCalls =
      .ok ⟨[⟨"g", 2⟩, ⟨"g", 2⟩, ⟨"h!", 2⟩, ⟨"<expression>", 3⟩], [⟨"a", 1⟩]⟩ := by
    decide +kernel
  exact ⟨_, extracted, extract_records_calls.2.2 callsInCalls _ extracted, rfl⟩

end CallPolicy
