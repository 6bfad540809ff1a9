import CallPolicy.Proofs.CallGraph.Definitions
import CallPolicy.Proofs.Syntax.PythonReading
import Mathlib.Data.List.Perm.Basic

/-! The imports of a module, in its outline and in its graph.

An outline keeps the imports outside all functions apart from those of its functions. Together they
are the imports of the whole tree, since the extent of a function adds none to those below it.
-/

set_option autoImplicit false

namespace CallPolicy

open Syntax

namespace Constructs

variable (constructs : Constructs)

/-- The imports that one node makes. -/
def importsAt (node : Node) : List ImportSite :=
  (constructs.imports node).map fun moduleName => ⟨moduleName, node.line⟩

/-- The imports of a whole subtree. -/
def importsIn (node : Node) : List ImportSite :=
  node.preorder.flatMap constructs.importsAt

theorem importsIn_eq (node : Node) :
    constructs.importsIn node = constructs.importsAt node ++ node.namedChildren.flatMap constructs.importsIn := by
  rw [importsIn, Node.preorder_eq, List.flatMap_cons, List.flatMap_assoc]
  rfl

theorem collect_imports (node : Node) : (collect constructs node).imports = constructs.importsIn node := by
  simp only [collect, Place.all_eq, List.map_map]
  exact congrArg (List.flatMap constructs.importsAt) node.everywhere_nodes

/-- What an outline takes at a place outside all functions: all imports of a function, and otherwise
those of one node. -/
def outlinedImports (node : Node) : List ImportSite :=
  if (constructs.functionName node).isSome then constructs.importsIn node else constructs.importsAt node

variable {constructs}

theorem isNested_of_around {node : Node} {around : List Node} {occurrence : Occurrence}
    (isFunction : (constructs.functionName node).isSome = true) (below : node :: around <:+ occurrence.around) :
    constructs.isNested occurrence = true :=
  List.any_eq_true.2 ⟨node, below.subset List.mem_cons_self, isFunction⟩

mutual

/-- Outside all functions, the outlined imports are those of the subtree. -/
theorem outlinedImports_occurrences {around earlier : List Node}
    (outside : around.any (fun node => (constructs.functionName node).isSome) = false) :
    (node : Node) → ((node.occurrences around earlier).filter (!constructs.isNested ·)).flatMap
      (constructs.outlinedImports ·.place.node) = constructs.importsIn node
  | ⟨kind, named, role, line, text, missing, broken, children⟩ => by
    generalize whole : (⟨kind, named, role, line, text, missing, broken, children⟩ : Node) = node
    have parts : node.children = children := whole ▸ rfl
    have kept : (!constructs.isNested ⟨⟨node, around.head?, earlier⟩, around⟩) = true := by
      rw [isNested, outside, Bool.not_false]
    rw [Node.occurrences_eq, List.filter_cons, if_pos kept, List.flatMap_cons, importsIn_eq, parts]
    cases isFunction : (constructs.functionName node).isSome with
    | true =>
      have inside : ((Node.occurrencesIn (node :: around) [] children).filter (!constructs.isNested ·)) = [] := by
        refine List.filter_eq_nil_iff.2 fun occurrence member => ?_
        simp [isNested_of_around isFunction (Node.around_of_mem_occurrencesIn children member)]
      rw [inside, List.flatMap_nil, List.append_nil, outlinedImports, if_pos isFunction, importsIn_eq]
    | false =>
      have further : (node :: around).any (fun node => (constructs.functionName node).isSome) = false := by
        rw [List.any_cons, isFunction, outside, Bool.or_false]
      rw [outlinedImports_occurrencesIn further children, outlinedImports, isFunction, Node.namedChildren, parts]
      rfl
termination_by structural node => node

theorem outlinedImports_occurrencesIn {around earlier : List Node}
    (outside : around.any (fun node => (constructs.functionName node).isSome) = false) :
    (nodes : List Node) → ((Node.occurrencesIn around earlier nodes).filter (!constructs.isNested ·)).flatMap
      (constructs.outlinedImports ·.place.node) = (nodes.filter (·.named)).flatMap constructs.importsIn
  | [] => by
    rw [Node.occurrencesIn, List.filter_nil, List.flatMap_nil, List.filter_nil, List.flatMap_nil]
  | node :: rest => by
    rw [Node.occurrencesIn, List.filter_cons]
    split
    · rw [List.filter_append, List.flatMap_append, outlinedImports_occurrences outside,
        outlinedImports_occurrencesIn outside, List.flatMap_cons]
    · exact outlinedImports_occurrencesIn outside rest
termination_by structural nodes => nodes

end

/-- The extents of functions hold no more imports than their definitions. -/
def ExtentsExact (constructs : Constructs) (tree : Node) : Prop :=
  ∀ definition ∈ tree.everywhere, (constructs.functionName definition.place.node).isSome = true →
    constructs.importsIn (constructs.extent definition.place) = constructs.importsIn definition.place.node

theorem outline_imports (tree : Node) :
    (outlineTree constructs tree).imports = (tree.everywhere.filter (!constructs.isNested ·)).flatMap fun occurrence =>
      if (constructs.functionName occurrence.place.node).isSome then [] else constructs.importsAt occurrence.place.node := by
  rw [outlineTree, outlinePlaces_eq, List.flatMap_map]
  rfl

theorem outline_functions_imports {tree : Node} (exact : constructs.ExtentsExact tree) :
    (outlineTree constructs tree).functions.flatMap (·.graph.imports) =
      (tree.everywhere.filter (!constructs.isNested ·)).flatMap fun occurrence =>
        if (constructs.functionName occurrence.place.node).isSome then constructs.importsIn occurrence.place.node else [] := by
  have everywhere : ∀ occurrence ∈ tree.everywhere.filter (!constructs.isNested ·), occurrence ∈ tree.everywhere :=
    fun occurrence member => List.mem_of_mem_filter member
  rw [outlineTree, outlinePlaces_eq, List.filterMap_map]
  generalize tree.everywhere.filter (!constructs.isNested ·) = outer at everywhere ⊢
  induction outer with
  | nil => rfl
  | cons occurrence rest ih =>
    obtain ⟨here, later⟩ := List.forall_mem_cons.1 everywhere
    rw [List.filterMap_cons, List.flatMap_cons, ← ih later]
    cases named : constructs.functionName occurrence.place.node with
    | none => simp [named]
    | some name =>
      have exactHere := exact occurrence here (by rw [named]; rfl)
      simp [named, collect_imports, exactHere]

/-- No import is lost between an outline and its functions, and none is in both. -/
theorem outline_imports_perm {tree : Node} (exact : constructs.ExtentsExact tree) :
    ((outlineTree constructs tree).imports ++ (outlineTree constructs tree).functions.flatMap (·.graph.imports)).Perm
      (extractTree constructs tree).imports := by
  have whole : (tree.everywhere.filter (!constructs.isNested ·)).flatMap (constructs.outlinedImports ·.place.node) =
      constructs.importsIn tree := outlinedImports_occurrences List.any_nil tree
  rw [outline_imports, outline_functions_imports exact, extractTree, collect_imports, ← whole]
  refine (List.flatMap_append_perm _ _ _).trans (List.Perm.of_eq (congrArg (List.flatMap · _) (funext fun occurrence => ?_)))
  rw [outlinedImports]
  split <;> simp

end Constructs

/-! ### The extents of both languages -/

namespace Python

open Syntax.Python

/-- A decorated definition imports what its definition does. -/
theorem importsIn_decorated {parent child : Node} (well : WellDecorated parent)
    (decorated : parent.kind = .decoratedDefinition) (isFunction : child.kind = .functionDefinition)
    (member : child ∈ parent.namedChildren) : constructs.importsIn parent = constructs.importsIn child := by
  obtain ⟨front, definition, children, inert⟩ := well.decorated decorated
  have nothing : front.flatMap constructs.importsIn = [] := by
    simp only [List.flatMap_eq_nil_iff, Constructs.importsIn]
    intro other before inner below
    exact List.map_eq_nil_iff.2 (inert other before inner below).noImports
  have last : child = definition := by
    rw [children] at member
    rcases List.mem_append.1 member with before | last
    · have here := ((Node.obeys_iff _ _).1 (inert child before)).1
      exact absurd isFunction here.noFunction
    · exact List.mem_singleton.1 last
  have none : constructs.importsAt parent = [] :=
    List.map_eq_nil_iff.2 (imports_eq_nil (by simp [decorated, isImport]))
  rw [Constructs.importsIn_eq, none, children, List.flatMap_append, nothing, List.flatMap_singleton, last]
  rfl

theorem extents_exact (text : List Char) : constructs.ExtentsExact (Syntax.Python.parse text) := by
  intro definition member named
  have isFunction : definition.place.node.kind = .functionDefinition := by
    simp only [constructs] at named
    split at named
    · next same => exact eq_of_beq same
    · cases named
  cases found : decorated? definition.place with
  | none => simp [constructs, found]
  | some parent =>
    obtain ⟨parentIs, decorated⟩ := Option.filter_eq_some_iff.1 found
    have extent : constructs.extent definition.place = parent := by simp [constructs, found]
    rw [extent]
    rcases Node.parent_of_mem_occurrences _ member with root | ⟨other, inside, same, child⟩
    · rw [root] at parentIs
      cases parentIs
    · cases parentIs.symm.trans same
      exact importsIn_decorated (parse_wellDecorated text parent inside) (eq_of_beq decorated) isFunction child

end Python

/-- In both languages the extents of functions are exact. -/
theorem extents_exact (unit : SourceUnit) : unit.language.constructs.ExtentsExact (parse unit) := by
  obtain ⟨language, text⟩ := unit
  cases language with
  | python => exact Python.extents_exact text.toList
  | rust => exact fun _ _ _ => rfl

end CallPolicy
