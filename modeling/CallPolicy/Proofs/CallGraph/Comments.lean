import CallPolicy.Proofs.CallGraph.Imports
import CallPolicy.Proofs.CallGraph.Stripping

/-! Analyses of a tree and of the same tree without comments.

Calls, functions and the names of classes are found without a look at comments. Imports agree where no
use tree is read into a comment, and markers where no comment stands before what a mark says.
-/

set_option autoImplicit false

namespace CallPolicy

open Syntax

/-! ### Single nodes -/

namespace Constructs

variable (constructs : Constructs)

/-- The calls that one node makes. -/
def callsAt (node : Node) : List CallSite :=
  ((constructs.callTarget node).map fun name => ⟨name, node.line⟩).toList

theorem collect_calls (node : Node) : (collect constructs node).calls = node.preorder.flatMap constructs.callsAt := by
  simp only [collect, Place.all_eq, List.map_map]
  exact congrArg (List.flatMap constructs.callsAt) node.everywhere_nodes

/-- The node is none of the constructs that the analyses look for. -/
structure Passes (node : Node) : Prop where
  noFunction : constructs.functionName node = none
  noClass : constructs.className node = none
  noCall : constructs.callTarget node = none
  noImport : constructs.imports node = []

end Constructs

namespace Language

variable (language : Language) {node : Node}

theorem passes_of_isIdle (idle : node.kind.isIdle = true) : language.constructs.Passes node := by
  cases isKind : node.kind <;> rw [isKind] at idle <;> cases idle
  all_goals cases language with
  | python => constructor <;> simp [constructs, Python.constructs, Python.imports, isKind]
  | rust => constructor <;> simp [constructs, Rust.constructs, Rust.callTarget, Rust.imports, isKind]

theorem functionName_stripped (tidy : node.Tidy) :
    language.constructs.functionName node.stripped = language.constructs.functionName node := by
  cases language with
  | python => simp only [constructs, Python.constructs, Node.stripped_kind, nameOf_stripped tidy]
  | rust => simp only [constructs, Rust.constructs, Node.stripped_kind, nameOf_stripped tidy]

theorem className_stripped (tidy : node.Tidy) :
    language.constructs.className node.stripped = language.constructs.className node := by
  cases language with
  | python => simp only [constructs, Python.constructs, Node.stripped_kind, nameOf_stripped tidy]
  | rust => simp only [constructs, Rust.constructs, Node.stripped_kind, nameOf_stripped tidy]

theorem callsAt_stripped (tidy : node.Tidy) :
    language.constructs.callsAt node.stripped = language.constructs.callsAt node := by
  have same : language.constructs.callTarget node.stripped = language.constructs.callTarget node := by
    cases language with
    | python => exact Python.callTarget_stripped tidy
    | rust => exact Rust.callTarget_stripped tidy
  rw [Constructs.callsAt, Constructs.callsAt, same, Node.stripped_line]

/-- What the node imports is read off a comment. -/
def ReadsComment : Language → Node → Prop
  | python, _ => False
  | rust, node => Rust.ReadsComment node

instance (language : Language) (node : Node) : Decidable (language.ReadsComment node) :=
  match language with
  | python => inferInstanceAs (Decidable False)
  | rust => inferInstanceAs (Decidable (Rust.ReadsComment node))

theorem importsAt_stripped (tidy : node.Tidy) (clear : ¬ language.ReadsComment node) :
    language.constructs.importsAt node.stripped = language.constructs.importsAt node := by
  have same : language.constructs.imports node.stripped = language.constructs.imports node := by
    cases language with
    | python => exact Python.imports_stripped tidy
    | rust => exact Rust.imports_stripped tidy clear
  rw [Constructs.importsAt, Constructs.importsAt, same, Node.stripped_line]

/-! ### Subtrees -/

theorem calls_stripped (tidy : node.Tidy) (noComment : node.isComment = false) :
    (collect language.constructs node.stripped).calls = (collect language.constructs node).calls := by
  rw [Constructs.collect_calls, Constructs.collect_calls]
  refine tidy.flatMap_stripped noComment (fun inner member => language.callsAt_stripped (tidy.obeys inner member)) ?_
  intro inner idle
  rw [Constructs.callsAt, (language.passes_of_isIdle idle).noCall]
  rfl

theorem importsIn_stripped (tidy : node.Tidy) (noComment : node.isComment = false)
    (clear : node.Obeys (¬ language.ReadsComment ·)) :
    language.constructs.importsIn node.stripped = language.constructs.importsIn node := by
  refine tidy.flatMap_stripped noComment (fun inner member => ?_) fun inner idle => ?_
  · exact language.importsAt_stripped (tidy.obeys inner member) (clear inner member)
  · rw [Constructs.importsAt, (language.passes_of_isIdle idle).noImport, List.map_nil]

theorem collect_stripped (tidy : node.Tidy) (noComment : node.isComment = false)
    (clear : node.Obeys (¬ language.ReadsComment ·)) :
    collect language.constructs node.stripped = collect language.constructs node := by
  have imports : (collect language.constructs node.stripped).imports = (collect language.constructs node).imports := by
    rw [Constructs.collect_imports, Constructs.collect_imports, language.importsIn_stripped tidy noComment clear]
  exact congrArg₂ CallGraph.mk (language.calls_stripped tidy noComment) imports

/-! ### Definitions -/

theorem extent_stripped (place : Place) :
    language.constructs.extent place.stripped = (language.constructs.extent place).stripped := by
  cases language with
  | python =>
    show (Python.decorated? place.stripped).getD _ = ((Python.decorated? place).getD _).stripped
    rw [Python.decorated?_stripped]
    cases Python.decorated? place <;> rfl
  | rust => rfl

/-- The extent of a definition is the definition, or what decorates it. -/
theorem extent_within {property : Node → Prop} {occurrence : Occurrence} (within : occurrence.Within property)
    (noComment : occurrence.place.node.isComment = false) :
    property (language.constructs.extent occurrence.place) ∧
      (language.constructs.extent occurrence.place).isComment = false := by
  cases language with
  | python =>
    show property ((Python.decorated? occurrence.place).getD _) ∧ ((Python.decorated? occurrence.place).getD _).isComment = false
    cases found : Python.decorated? occurrence.place with
    | none => exact ⟨within.node, noComment⟩
    | some parent =>
      obtain ⟨isParent, decorated⟩ := Option.filter_eq_some_iff.1 found
      rw [within.parent] at isParent
      exact ⟨within.around parent (List.mem_of_head? isParent), by simp [Node.isComment, eq_of_beq decorated]⟩
  | rust => exact ⟨within.node, noComment⟩

variable {tree : Node}

theorem tidy_everywhere (tidy : tree.Tidy) : ∀ occurrence ∈ tree.everywhere, occurrence.Within Node.Tidy :=
  Node.within_everywhere (fun _ tidy => tidy.named) tidy

theorem graphOf_calls_stripped {occurrence : Occurrence} (within : occurrence.Within Node.Tidy)
    (noComment : occurrence.place.node.isComment = false) :
    (language.constructs.graphOf occurrence.stripped).calls = (language.constructs.graphOf occurrence).calls := by
  obtain ⟨tidy, extentNoComment⟩ := language.extent_within within noComment
  rw [Constructs.graphOf, Occurrence.stripped, extent_stripped]
  exact language.calls_stripped tidy extentNoComment

theorem graphOf_stripped {occurrence : Occurrence} (within : occurrence.Within Node.Tidy)
    (clear : occurrence.Within (·.Obeys (¬ language.ReadsComment ·))) (noComment : occurrence.place.node.isComment = false) :
    language.constructs.graphOf occurrence.stripped = language.constructs.graphOf occurrence := by
  obtain ⟨tidy, extentNoComment⟩ := language.extent_within within noComment
  rw [Constructs.graphOf, Occurrence.stripped, extent_stripped]
  exact language.collect_stripped tidy extentNoComment (language.extent_within clear noComment).1

theorem firstDefinition?_stripped (tidy : tree.Tidy) (noComment : tree.isComment = false) (name : String) :
    language.constructs.firstDefinition? tree.stripped name =
      (language.constructs.firstDefinition? tree name).map Occurrence.stripped := by
  rw [Constructs.firstDefinition?, Constructs.firstDefinition?, Node.everywhere_stripped noComment]
  refine find?_image (fun occurrence member _ => ?_) fun occurrence member inside => ?_
  · rw [Occurrence.stripped, Place.stripped, language.functionName_stripped (tidy_everywhere tidy occurrence member).node]
  · rw [(language.passes_of_isIdle (tidy.idle_of_everywhere member inside)).noFunction]
    rfl

/-- The first definition of a name is no comment. -/
theorem firstDefinition?_noComment {name : String} {definition : Occurrence}
    (found : language.constructs.firstDefinition? tree name = some definition) :
    definition.place.node.isComment = false := by
  rw [← Bool.not_eq_true]
  intro comment
  have named := language.constructs.firstDefinition?_name found
  have idle : definition.place.node.kind.isIdle = true := by
    rw [eq_of_beq comment]
    rfl
  rw [(language.passes_of_isIdle idle).noFunction] at named
  cases named

/-- Graphs of functions agree as far as those of all their definitions do. -/
theorem extractFunctionTree_stripped {α : Type} (read : CallGraph → α) (tidy : tree.Tidy) (noComment : tree.isComment = false)
    (same : ∀ occurrence ∈ tree.everywhere, occurrence.place.node.isComment = false →
      read (language.constructs.graphOf occurrence.stripped) = read (language.constructs.graphOf occurrence)) (name : String) :
    (extractFunctionTree language.constructs tree.stripped name).map read =
      (extractFunctionTree language.constructs tree name).map read := by
  rw [Constructs.extractFunctionTree_eq, Constructs.extractFunctionTree_eq,
    language.firstDefinition?_stripped tidy noComment]
  cases found : language.constructs.firstDefinition? tree name with
  | none => rfl
  | some definition =>
    exact congrArg some (same definition (List.mem_of_find?_eq_some found) (language.firstDefinition?_noComment found))

/-! ### Outlines -/

theorem isNested_stripped {occurrence : Occurrence} (within : occurrence.Within Node.Tidy) :
    language.constructs.isNested occurrence.stripped = language.constructs.isNested occurrence := by
  have names : occurrence.stripped.around.map language.constructs.functionName =
      occurrence.around.map language.constructs.functionName := by
    rw [Occurrence.stripped, List.map_map]
    exact List.map_congr_left fun node member => language.functionName_stripped (within.around node member)
  have outer := congrArg (List.any · Option.isSome) names
  rwa [List.any_map, List.any_map] at outer

theorem outside_stripped (tidy : tree.Tidy) (noComment : tree.isComment = false) :
    language.constructs.outside tree.stripped =
      ((language.constructs.outside tree).filter (·.outsideComments)).map Occurrence.stripped := by
  have nested : ∀ occurrence ∈ tree.everywhere.filter (·.outsideComments),
      (!language.constructs.isNested occurrence.stripped) = !language.constructs.isNested occurrence := by
    intro occurrence member
    rw [language.isNested_stripped (tidy_everywhere tidy occurrence (List.mem_of_mem_filter member))]
  rw [Constructs.outside, Node.everywhere_stripped noComment, List.filter_map]
  exact congrArg _ ((List.filter_congr nested).trans (List.filter_comm _ _ _))

theorem outline_functions_stripped {α : Type} (read : FunctionOutline → α) (tidy : tree.Tidy) (noComment : tree.isComment = false)
    (same : ∀ occurrence ∈ tree.everywhere, occurrence.place.node.isComment = false →
      (language.constructs.outlined? occurrence.stripped).map read = (language.constructs.outlined? occurrence).map read) :
    (outlineTree language.constructs tree.stripped).functions.map read =
      (outlineTree language.constructs tree).functions.map read := by
  rw [Constructs.outline_functions, Constructs.outline_functions, List.map_filterMap, List.map_filterMap,
    language.outside_stripped tidy noComment]
  refine filterMap_image (fun occurrence member kept => ?_) fun occurrence member inside => ?_
  · exact same occurrence (List.mem_of_mem_filter member) (Occurrence.noComment kept)
  · have idle := tidy.idle_of_everywhere (List.mem_of_mem_filter member) inside
    rw [Constructs.outlined?, (language.passes_of_isIdle idle).noFunction]
    rfl

theorem outline_classes_stripped {α : Type} (read : ClassOutline → α) (tidy : tree.Tidy) (noComment : tree.isComment = false)
    (same : ∀ occurrence ∈ language.constructs.outside tree,
      (language.constructs.outlinedClass? occurrence.stripped).map read =
        (language.constructs.outlinedClass? occurrence).map read) :
    (outlineTree language.constructs tree.stripped).classes.map read =
      (outlineTree language.constructs tree).classes.map read := by
  rw [Constructs.outline_classes, Constructs.outline_classes, List.map_filterMap, List.map_filterMap,
    language.outside_stripped tidy noComment]
  refine filterMap_image (fun occurrence member _ => same occurrence member) fun occurrence member inside => ?_
  have passes := language.passes_of_isIdle (tidy.idle_of_everywhere (List.mem_of_mem_filter member) inside)
  rw [Constructs.outlinedClass?, passes.noFunction, passes.noClass]
  rfl

theorem outline_imports_stripped (tidy : tree.Tidy) (noComment : tree.isComment = false)
    (clear : tree.Obeys (¬ language.ReadsComment ·)) :
    (outlineTree language.constructs tree.stripped).imports = (outlineTree language.constructs tree).imports := by
  rw [Constructs.outline_imports, Constructs.outline_imports]
  show (language.constructs.outside tree.stripped).flatMap _ = (language.constructs.outside tree).flatMap _
  rw [language.outside_stripped tidy noComment]
  refine flatMap_image (fun occurrence member _ => ?_) fun occurrence member inside => ?_
  · have everywhere := List.mem_of_mem_filter member
    have within := tidy_everywhere tidy occurrence everywhere
    have clearHere := clear _ (Node.node_mem_preorder everywhere)
    rw [Occurrence.stripped_node, language.functionName_stripped within.node]
    exact if_congr Iff.rfl rfl (language.importsAt_stripped within.node clearHere)
  · have passes := language.passes_of_isIdle (tidy.idle_of_everywhere (List.mem_of_mem_filter member) inside)
    rw [passes.noFunction, Constructs.importsAt, passes.noImport]
    rfl

end Language

/-! ### What comments do to the analyses -/

namespace Constructs

/-- The trees show the same calls, functions and names of classes. -/
structure SameCalls (constructs : Constructs) (tree other : Node) : Prop where
  unit : (extractTree constructs tree).calls = (extractTree constructs other).calls
  function : ∀ name, (extractFunctionTree constructs tree name).map (·.calls) =
    (extractFunctionTree constructs other name).map (·.calls)
  functions : (outlineTree constructs tree).functions.map (fun function => (function.name, function.line, function.graph.calls)) =
    (outlineTree constructs other).functions.map fun function => (function.name, function.line, function.graph.calls)
  classes : (outlineTree constructs tree).classes.map (fun listed => (listed.name, listed.line)) =
    (outlineTree constructs other).classes.map fun listed => (listed.name, listed.line)

/-- The trees show the same imports, along with the calls. -/
structure SameImports (constructs : Constructs) (tree other : Node) : Prop where
  unit : extractTree constructs tree = extractTree constructs other
  function : ∀ name, extractFunctionTree constructs tree name = extractFunctionTree constructs other name
  functions : (outlineTree constructs tree).functions = (outlineTree constructs other).functions
  imports : (outlineTree constructs tree).imports = (outlineTree constructs other).imports

end Constructs

/-- What the analyses of a tree overlook in it: without its comments it shows the same calls, functions and names of
classes. It shows the same imports too unless one is read off a comment, and the same markers unless a comment
stands in a mark of a class outside all functions, before its expression. -/
structure Language.OverlooksComments (language : Language) (tree : Node) : Prop where
  calls : language.constructs.SameCalls tree.stripped tree
  imports : (∀ node ∈ tree.preorder, ¬ language.ReadsComment node) → language.constructs.SameImports tree.stripped tree
  markers : (∀ occurrence ∈ language.constructs.outside tree,
      (language.constructs.className occurrence.place.node).isSome = true →
        ∀ mark ∈ language.marks occurrence.place, mark.beginsClear = true) →
    (outlineTree language.constructs tree.stripped).classes = (outlineTree language.constructs tree).classes

namespace Language

variable (language : Language) {tree : Node}

theorem sameCalls_stripped (tidy : tree.Tidy) (noComment : tree.isComment = false) :
    language.constructs.SameCalls tree.stripped tree where
  unit := language.calls_stripped tidy noComment
  function := language.extractFunctionTree_stripped _ tidy noComment fun occurrence member noComment =>
    language.graphOf_calls_stripped (tidy_everywhere tidy occurrence member) noComment
  functions := language.outline_functions_stripped _ tidy noComment fun occurrence member noComment => by
    have within := tidy_everywhere tidy occurrence member
    have calls := language.graphOf_calls_stripped within noComment
    simp only [Constructs.outlined?, Occurrence.stripped_node, language.functionName_stripped within.node,
      Node.stripped_line, Option.map_map, Function.comp_def, calls]
  classes := language.outline_classes_stripped _ tidy noComment fun occurrence member => by
    have within := tidy_everywhere tidy occurrence (List.mem_of_mem_filter member)
    simp only [Constructs.outlinedClass?, Occurrence.stripped_node, language.functionName_stripped within.node,
      language.className_stripped within.node, Node.stripped_line]
    split
    · rfl
    · rw [Option.map_map, Option.map_map]
      rfl

theorem sameImports_stripped (tidy : tree.Tidy) (noComment : tree.isComment = false)
    (clear : tree.Obeys (¬ language.ReadsComment ·)) : language.constructs.SameImports tree.stripped tree := by
  have clearWithin : ∀ occurrence ∈ tree.everywhere, occurrence.Within (·.Obeys (¬ language.ReadsComment ·)) :=
    Node.within_everywhere (fun node obeys => ((Node.obeys_iff _ node).1 obeys).2) clear
  have graphs : ∀ occurrence ∈ tree.everywhere, occurrence.place.node.isComment = false →
      language.constructs.graphOf occurrence.stripped = language.constructs.graphOf occurrence :=
    fun occurrence member => language.graphOf_stripped (tidy_everywhere tidy occurrence member) (clearWithin occurrence member)
  refine ⟨language.collect_stripped tidy noComment clear, fun name => ?_, ?_,
    language.outline_imports_stripped tidy noComment clear⟩
  · have same := language.extractFunctionTree_stripped id tidy noComment graphs name
    rwa [Option.map_id_fun, id, id] at same
  · have same := language.outline_functions_stripped id tidy noComment fun occurrence member noComment => by
      have within := tidy_everywhere tidy occurrence member
      rw [Constructs.outlined?, Constructs.outlined?, Occurrence.stripped_node,
        language.functionName_stripped within.node, Node.stripped_line, graphs occurrence member noComment]
    rwa [List.map_id, List.map_id] at same

theorem sameMarkers_stripped (tidy : tree.Tidy) (noComment : tree.isComment = false)
    (clear : ∀ occurrence ∈ language.constructs.outside tree,
      (language.constructs.className occurrence.place.node).isSome = true →
        ∀ mark ∈ language.marks occurrence.place, mark.beginsClear = true) :
    (outlineTree language.constructs tree.stripped).classes = (outlineTree language.constructs tree).classes := by
  have same := language.outline_classes_stripped id tidy noComment fun occurrence member => by
    have within := tidy_everywhere tidy occurrence (List.mem_of_mem_filter member)
    rw [Constructs.outlinedClass?, Constructs.outlinedClass?, Occurrence.stripped_node,
      language.functionName_stripped within.node, language.className_stripped within.node, Node.stripped_line]
    cases isClass : language.constructs.className occurrence.place.node with
    | none => rfl
    | some name =>
      have markers : language.constructs.classMarkers occurrence.stripped.place =
          language.constructs.classMarkers occurrence.place :=
        language.classMarkers_stripped (marks_within (fun _ tidy => tidy.named) within)
          (clear occurrence member (by rw [isClass]; rfl))
      rw [markers]
  rwa [List.map_id, List.map_id] at same

end Language

theorem parse_tidy (unit : SourceUnit) : (parse unit).Tidy ∧ (parse unit).isComment = false := by
  obtain ⟨language, text⟩ := unit
  cases language with
  | python => exact Python.parse_tidy text.toList
  | rust => exact Rust.parse_tidy text.toList

/-- Comments are overlooked in every tree in which they play no part and nothing in them calls, imports or defines
anything. The tree of a source unit is like that. -/
theorem comments_overlooked (unit : SourceUnit) :
    (∀ tree : Node, tree.Tidy → tree.isComment = false → unit.language.OverlooksComments tree) ∧
    ∀ tree, checkedTree unit = .ok tree →
      tree.Tidy ∧ tree.isComment = false ∧ unit.language.OverlooksComments tree := by
  have overlooked : ∀ tree : Node, tree.Tidy → tree.isComment = false → unit.language.OverlooksComments tree :=
    fun tree tidy noComment =>
      ⟨unit.language.sameCalls_stripped tidy noComment, unit.language.sameImports_stripped tidy noComment,
        unit.language.sameMarkers_stripped tidy noComment⟩
  refine ⟨overlooked, fun tree parsed => ?_⟩
  cases checkedTree_eq_ok parsed
  obtain ⟨tidy, noComment⟩ := parse_tidy unit
  exact ⟨tidy, noComment, overlooked _ tidy noComment⟩

section

/-- Comments in a group with a path before it, between an attribute and its item, and in a macro call. -/
def remarkedUnit : SourceUnit :=
  ⟨.rust, "use a::\x7b/* c */\x7d;\n#[m]// c\nstruct S;\ng!(/* c */);\n"⟩

theorem comments_overlooked_in_remarked :
    ∃ tree, checkedTree remarkedUnit = .ok tree ∧ tree.stripped.preorder.length < tree.preorder.length ∧
      extractTree Rust.constructs tree.stripped = ⟨[⟨"g!", 4⟩], [⟨"a", 1⟩]⟩ ∧
      (outlineTree Rust.constructs tree.stripped).classes = [⟨"S", 3, ["m"]⟩] := by
  -- One evaluation reads the unit for all that is asked of its tree.
  obtain ⟨readable, fewer, noneRead, clear, graph, classes⟩ : (parse remarkedUnit).firstErrorLine = none ∧
      (parse remarkedUnit).stripped.preorder.length < (parse remarkedUnit).preorder.length ∧
      (∀ node ∈ (parse remarkedUnit).preorder, ¬ Language.rust.ReadsComment node) ∧
      (∀ occurrence ∈ Rust.constructs.outside (parse remarkedUnit),
        (Rust.constructs.className occurrence.place.node).isSome = true →
          ∀ mark ∈ Language.rust.marks occurrence.place, mark.beginsClear = true) ∧
      extractTree Rust.constructs (parse remarkedUnit) = ⟨[⟨"g!", 4⟩], [⟨"a", 1⟩]⟩ ∧
      (outlineTree Rust.constructs (parse remarkedUnit)).classes = [⟨"S", 3, ["m"]⟩] := by decide +kernel
  have parsed : checkedTree remarkedUnit = .ok (parse remarkedUnit) := by rw [checkedTree, readable]
  obtain ⟨_, _, overlooks⟩ := (comments_overlooked remarkedUnit).2 _ parsed
  exact ⟨_, parsed, fewer, (overlooks.imports noneRead).unit.trans graph, (overlooks.markers clear).trans classes⟩

/-- A comment in a list of imports. -/
def listedUnit : SourceUnit :=
  ⟨.rust, "use \x7ba, /* c */ b\x7d;\n"⟩

/-- The comment is imported. -/
theorem comments_imported :
    ∃ tree, checkedTree listedUnit = .ok tree ∧
      (extractTree Rust.constructs tree).importNames = ["a", "/* c */", "b"] ∧
      (extractTree Rust.constructs tree.stripped).importNames = ["a", "b"] := by
  obtain ⟨readable, imports, stripped⟩ : (parse listedUnit).firstErrorLine = none ∧
      (extractTree Rust.constructs (parse listedUnit)).importNames = ["a", "/* c */", "b"] ∧
      (extractTree Rust.constructs (parse listedUnit).stripped).importNames = ["a", "b"] := by decide +kernel
  exact ⟨_, by rw [checkedTree, readable], imports, stripped⟩

end

end CallPolicy
