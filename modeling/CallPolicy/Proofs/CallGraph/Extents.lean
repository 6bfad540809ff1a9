import CallPolicy.Proofs.CallGraph.Comments
import CallPolicy.Proofs.Syntax.Subtrees

/-! The extent of a function in the graph of its unit.

The graph of a whole unit lists calls and imports in source order, and the extent of a definition is one block of that
order. So the graph of a function is a part of that of the unit.
-/

set_option autoImplicit false

namespace CallPolicy

open Syntax

namespace Language

/-- The construct carries the decorators of a definition that is its child. -/
def decorates : Language → Node → Bool
  | .python, node => node.kind == .decoratedDefinition
  | .rust, _ => false

/-- The full extent of a definition: its own subtree, or that of the construct that carries its decorators. -/
inductive FullExtent (language : Language) (definition : Occurrence) : Occurrence → Prop where
  | bare : (∀ outer, definition.place.parent = some outer → language.decorates outer = false) →
    FullExtent language definition definition
  | decorated {outer : Occurrence} : definition ∈ outer.children → language.decorates outer.place.node = true →
    FullExtent language definition outer

variable {language : Language} {definition extent : Occurrence}

theorem extent_eq (language : Language) (place : Place) :
    language.constructs.extent place = (place.parent.filter language.decorates).getD place.node := by
  cases language with
  | python => rfl
  | rust => cases place.parent <;> rfl

theorem extent_of_child (language : Language) {outer inner : Occurrence} (child : Occurrence.Child outer inner) :
    language.constructs.extent inner.place =
      if language.decorates outer.place.node then outer.place.node else inner.place.node := by
  rw [extent_eq, child.parent, Option.filter_some]
  split <;> rfl

theorem FullExtent.node (full : language.FullExtent definition extent) :
    language.constructs.extent definition.place = extent.place.node := by
  cases full with
  | bare undecorated =>
    have undecorating : definition.place.parent.filter language.decorates = none :=
      Option.filter_eq_none_iff.2 fun outer isParent => by simp [undecorated outer isParent]
    rw [extent_eq, undecorating]
    rfl
  | decorated child decorates => rw [extent_of_child language (Occurrence.child_of_mem child), if_pos decorates]

/-- A definition that is a child of some occurrence has a full extent, itself or the other. -/
theorem fullExtent_of_child (language : Language) {outer : Occurrence} (child : definition ∈ outer.children) :
    language.FullExtent definition (if language.decorates outer.place.node then outer else definition) := by
  split
  · next decorates => exact .decorated child decorates
  · next plain =>
    refine .bare fun parent isParent => ?_
    rw [(Occurrence.child_of_mem child).parent] at isParent
    cases isParent
    exact Bool.eq_false_iff.2 plain

/-- A tree as a whole is in nothing that decorates it. -/
theorem fullExtent_whole (language : Language) (tree : Node) :
    language.FullExtent (.whole tree) (.whole tree) :=
  .bare nofun

end Language

namespace Constructs

variable (constructs : Constructs)

/-- The calls at occurrences, in their order. -/
def callsOf (occurrences : List Occurrence) : List CallSite :=
  occurrences.flatMap (constructs.callsAt ·.place.node)

/-- The imports at occurrences, in their order. -/
def importsOf (occurrences : List Occurrence) : List ImportSite :=
  occurrences.flatMap (constructs.importsAt ·.place.node)

theorem callsOf_append (first second : List Occurrence) :
    constructs.callsOf (first ++ second) = constructs.callsOf first ++ constructs.callsOf second :=
  List.flatMap_append

theorem importsOf_append (first second : List Occurrence) :
    constructs.importsOf (first ++ second) = constructs.importsOf first ++ constructs.importsOf second :=
  List.flatMap_append

theorem collect_spread (occurrence : Occurrence) :
    collect constructs occurrence.place.node =
      ⟨constructs.callsOf occurrence.spread, constructs.importsOf occurrence.spread⟩ := by
  have nodes : occurrence.place.node.preorder = occurrence.spread.map (·.place.node) :=
    (Node.occurrences_nodes _ _ _).symm
  have calls := collect_calls constructs occurrence.place.node
  have imports := collect_imports constructs occurrence.place.node
  rw [nodes, List.flatMap_map] at calls
  rw [importsIn, nodes, List.flatMap_map] at imports
  exact congrArg₂ CallGraph.mk calls imports

theorem extractTree_everywhere (tree : Node) :
    extractTree constructs tree = ⟨constructs.callsOf tree.everywhere, constructs.importsOf tree.everywhere⟩ :=
  constructs.collect_spread (.whole tree)

end Constructs

theorem Language.FullExtent.graph {language : Language} {definition extent : Occurrence}
    (full : language.FullExtent definition extent) : language.constructs.graphOf definition =
      ⟨language.constructs.callsOf extent.spread, language.constructs.importsOf extent.spread⟩ := by
  rw [Constructs.graphOf, full.node]
  exact language.constructs.collect_spread extent

/-! ### The first definition of a name -/

/-- The extent of the first definition of a name is a block of the tree in source order. No definition of the name
begins before that block, and none in it before this definition does. -/
structure FirstExtent (language : Language) (tree : Node) (name : String) (before : List Occurrence)
    (extent : Occurrence) (after : List Occurrence) : Prop where
  block : tree.everywhere = before ++ extent.spread ++ after
  first : ∃ definition front rest, language.constructs.functionName definition.place.node = some name ∧
    language.FullExtent definition extent ∧ extent.spread = front ++ definition.spread ++ rest ∧
    ∀ earlier ∈ before ++ front, language.constructs.functionName earlier.place.node ≠ some name

theorem firstExtent_of_firstDefinition? {language : Language} {tree : Node} {name : String} {definition : Occurrence}
    (found : language.constructs.firstDefinition? tree name = some definition) :
    ∃ before extent after, FirstExtent language tree name before extent after ∧
      language.FullExtent definition extent := by
  obtain ⟨isNamed, earlier, later, divided, others⟩ := List.find?_eq_some_iff_append.1 found
  have named := eq_of_beq isNamed
  have first : ∀ other ∈ earlier, language.constructs.functionName other.place.node ≠ some name :=
    fun other member => by simpa using others other member
  rcases Occurrence.blocks_of_spread (Occurrence.proper_whole tree) divided with ⟨rfl, rfl⟩ |
    ⟨outer, before, front, rest, after, child, _, inTree, inOuter, rfl⟩
  · have full := language.fullExtent_whole tree
    have block : tree.everywhere = [] ++ (Occurrence.whole tree).spread ++ [] := (List.append_nil _).symm
    exact ⟨[], _, [], ⟨block, _, [], [], named, full, (List.append_nil _).symm, first⟩, full⟩
  · have full := language.fullExtent_of_child child
    split at full
    · exact ⟨before, outer, after, ⟨inTree, definition, front, rest, named, full, inOuter, first⟩, full⟩
    · have block : tree.everywhere = before ++ front ++ definition.spread ++ (rest ++ after) := by
        refine inTree.trans ?_
        rw [inOuter]
        simp only [List.append_assoc]
      refine ⟨before ++ front, definition, rest ++ after, ⟨block, definition, [], [], named, full, ?_, ?_⟩, full⟩
      · rw [List.nil_append, List.append_nil]
      · rwa [List.append_nil]

/-- Extraction finds a function just when a definition of the name stands somewhere in the tree. What it finds is a
part of the graph of the unit, in one piece: the calls and the imports of the full extent of the first definition. -/
theorem extractFunction_slices (unit : SourceUnit) (name : String) (tree : Node)
    (parsed : checkedTree unit = .ok tree) :
    ((∃ graph, extractFunction unit name = .ok graph) ↔
        ∃ definition ∈ tree.everywhere, unit.language.constructs.functionName definition.place.node = some name) ∧
      ((¬∃ definition ∈ tree.everywhere, unit.language.constructs.functionName definition.place.node = some name) →
        extractFunction unit name = .error (.functionNotFound name unit.language)) ∧
      ∀ graph, extractFunction unit name = .ok graph →
        ∃ whole before extent after, extract unit = .ok whole ∧
          FirstExtent unit.language tree name before extent after ∧
          graph.calls = unit.language.constructs.callsOf extent.spread ∧
          graph.imports = unit.language.constructs.importsOf extent.spread ∧
          whole.calls =
            unit.language.constructs.callsOf before ++ graph.calls ++ unit.language.constructs.callsOf after ∧
          whole.imports =
            unit.language.constructs.importsOf before ++ graph.imports ++ unit.language.constructs.importsOf after := by
  cases found : unit.language.constructs.firstDefinition? tree name with
  | none =>
    have missing := extractFunction_of_missing parsed found
    have nowhere : ¬∃ definition ∈ tree.everywhere,
        unit.language.constructs.functionName definition.place.node = some name := by
      rintro ⟨definition, member, named⟩
      exact List.find?_eq_none.1 found definition member (beq_iff_eq.2 named)
    rw [missing]
    exact ⟨⟨nofun, fun somewhere => absurd somewhere nowhere⟩, fun _ => rfl, nofun⟩
  | some definition =>
    have extracted := extractFunction_of_firstDefinition? parsed found
    have somewhere : ∃ definition ∈ tree.everywhere,
        unit.language.constructs.functionName definition.place.node = some name :=
      ⟨definition, List.mem_of_find?_eq_some found, Constructs.firstDefinition?_name _ found⟩
    obtain ⟨before, extent, after, isFirst, full⟩ := firstExtent_of_firstDefinition? found
    rw [extracted, full.graph]
    refine ⟨⟨fun _ => somewhere, fun _ => ⟨_, rfl⟩⟩, fun nowhere => absurd somewhere nowhere, ?_⟩
    intro graph same
    cases same
    refine ⟨_, before, extent, after, extract_of_checkedTree parsed, isFirst, rfl, rfl, ?_, ?_⟩
    · rw [Constructs.extractTree_everywhere, isFirst.block, Constructs.callsOf_append, Constructs.callsOf_append]
    · rw [Constructs.extractTree_everywhere, isFirst.block, Constructs.importsOf_append, Constructs.importsOf_append]

section

/-- A decorated function, one of the same name in it, and one after it. -/
def repeatingUnit : SourceUnit :=
  ⟨.python, "import os\n@wrap(mark())\ndef f():\n import re\n def f():\n  h()\ndef f():\n k()\n"⟩

/-- The decorators and the function inside belong to the first, and the function after it does not. -/
theorem extractFunction_of_repeating :
    ∃ tree, checkedTree repeatingUnit = .ok tree ∧
      extractFunction repeatingUnit "g" = .error (.functionNotFound "g" .python) ∧
      extractFunction repeatingUnit "f" =
        .ok ⟨[⟨"wrap", 2⟩, ⟨"mark", 2⟩, ⟨"h", 6⟩], [⟨"re", 4⟩]⟩ ∧
      ∃ before extent after, FirstExtent .python tree "f" before extent after ∧
        Python.constructs.callsOf extent.spread = [⟨"wrap", 2⟩, ⟨"mark", 2⟩, ⟨"h", 6⟩] ∧
        [⟨"wrap", 2⟩, ⟨"mark", 2⟩, ⟨"h", 6⟩, ⟨"k", 8⟩] =
          Python.constructs.callsOf before ++ [⟨"wrap", 2⟩, ⟨"mark", 2⟩, ⟨"h", 6⟩] ++
            Python.constructs.callsOf after := by
  have seen : ((parse repeatingUnit).firstErrorLine,
      extractFunctionTree Python.constructs (parse repeatingUnit) "g",
      extractFunctionTree Python.constructs (parse repeatingUnit) "f",
      (extractTree Python.constructs (parse repeatingUnit)).calls) =
      (none, none, some ⟨[⟨"wrap", 2⟩, ⟨"mark", 2⟩, ⟨"h", 6⟩], [⟨"re", 4⟩]⟩,
        [⟨"wrap", 2⟩, ⟨"mark", 2⟩, ⟨"h", 6⟩, ⟨"k", 8⟩]) := by decide +kernel
  simp only [Prod.mk.injEq] at seen
  obtain ⟨readable, missing, found, calls⟩ := seen
  have parsed : checkedTree repeatingUnit = .ok (parse repeatingUnit) := by rw [checkedTree, readable]
  -- Nothing is read off the tree from here on.
  generalize parse repeatingUnit = tree at missing found calls parsed
  have python : repeatingUnit.language.constructs = Python.constructs := rfl
  have failed : extractFunction repeatingUnit "g" = .error (.functionNotFound "g" .python) := by
    simp only [extractFunction, parsed, Bind.bind, Except.bind, python, missing]
    rfl
  have extracted : extractFunction repeatingUnit "f" =
      .ok ⟨[⟨"wrap", 2⟩, ⟨"mark", 2⟩, ⟨"h", 6⟩], [⟨"re", 4⟩]⟩ := by
    simp only [extractFunction, parsed, Bind.bind, Except.bind, python, found]
  obtain ⟨whole, before, extent, after, wholeExtracted, isFirst, inExtent, _, divided, _⟩ :=
    (extractFunction_slices repeatingUnit "f" tree parsed).2.2 _ extracted
  have same : whole = extractTree Python.constructs tree :=
    Except.ok.inj (wholeExtracted.symm.trans (extract_of_checkedTree parsed))
  rw [same, calls] at divided
  exact ⟨tree, parsed, failed, extracted, before, extent, after, isFirst, inExtent.symm, divided⟩

end

end CallPolicy
