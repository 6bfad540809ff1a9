import CallPolicy.Proofs.CallGraph.Extents
import Mathlib.Data.List.Flatten

/-! Which calls of a unit an outline assigns to its functions.

An outline lists the definitions that lie in no other one, each with the calls of its full extent. These extents lie
apart, and every extent of a definition lies in one of them. So each call in an extent is assigned once.
-/

set_option autoImplicit false

namespace CallPolicy

open Syntax

namespace Language

/-- What carries decorators is no function, and ends with what it decorates. No functions stand before that. -/
def DecoratesLast (language : Language) (node : Node) : Prop :=
  language.decorates node = true →
    language.constructs.functionName node = none ∧
    ∃ front definition, node.namedChildren = front ++ [definition] ∧
      ∀ child ∈ front, child.Obeys (language.constructs.functionName · = none)

theorem parse_decoratesLast (unit : SourceUnit) : (parse unit).Obeys unit.language.DecoratesLast := by
  obtain ⟨language, text⟩ := unit
  cases language with
  | rust => exact fun _ _ decorates => nomatch decorates
  | python =>
    intro node inside decorates
    have noFunction : ∀ node : Node, node.kind ≠ .functionDefinition → python.constructs.functionName node = none :=
      fun node other => by simp [constructs, Python.constructs, other]
    have decorated : node.kind = .decoratedDefinition := eq_of_beq decorates
    obtain ⟨front, definition, children, inert⟩ :=
      (Syntax.Python.parse_wellDecorated text.toList node inside).decorated decorated
    refine ⟨noFunction node (by simp [decorated]), front, definition, children, ?_⟩
    exact fun child member inner below => noFunction inner (inert child member inner below).noFunction

/-- A function is among the children of the node. -/
def holdsFunction (language : Language) (node : Node) : Bool :=
  node.namedChildren.any fun child => (language.constructs.functionName child).isSome

/-- The node is a function, or carries the decorators of one. -/
def opensExtent (language : Language) (node : Node) : Bool :=
  (language.constructs.functionName node).isSome || language.decorates node && language.holdsFunction node

/-- The occurrence lies in the full extent of a definition of the tree. -/
def InExtent (language : Language) (tree : Node) (occurrence : Occurrence) : Prop :=
  ∃ definition ∈ tree.everywhere, (language.constructs.functionName definition.place.node).isSome = true ∧
    ∃ extent ∈ tree.everywhere, language.FullExtent definition extent ∧ occurrence ∈ extent.spread

variable {language : Language} {tree : Node} {definition extent occurrence : Occurrence}

theorem holdsFunction_of_child {child : Occurrence} (member : child ∈ occurrence.children)
    (isFunction : (language.constructs.functionName child.place.node).isSome = true) :
    language.holdsFunction occurrence.place.node = true :=
  List.any_eq_true.2 ⟨child.place.node, (Occurrence.child_of_mem member).node, isFunction⟩

theorem FullExtent.opensExtent (full : language.FullExtent definition extent)
    (isFunction : (language.constructs.functionName definition.place.node).isSome = true) :
    language.opensExtent extent.place.node = true := by
  cases full with
  | bare _ => rw [Language.opensExtent, isFunction, Bool.true_or]
  | decorated child decorates =>
    rw [Language.opensExtent, decorates, holdsFunction_of_child child isFunction, Bool.and_true, Bool.or_true]

theorem FullExtent.spread_subset (full : language.FullExtent definition extent) (proper : extent.Proper) :
    definition.spread ⊆ extent.spread := by
  cases full with
  | bare _ => exact List.Subset.refl _
  | decorated child _ => exact Occurrence.child_spread_subset proper child

/-- Every definition of a tree has its full extent in the tree. -/
theorem exists_fullExtent (language : Language) (member : definition ∈ tree.everywhere) :
    ∃ extent ∈ tree.everywhere, language.FullExtent definition extent := by
  rcases Occurrence.parent_of_mem_spread (Occurrence.proper_whole tree) member with rfl | ⟨outer, outerMember, child⟩
  · exact ⟨_, member, language.fullExtent_whole tree⟩
  · refine ⟨_, ?_, language.fullExtent_of_child child⟩
    split
    · exact outerMember
    · exact member

/-- An occurrence lies in an extent just when it, or a node around it, opens one. -/
theorem inExtent_iff (member : occurrence ∈ tree.everywhere) :
    language.InExtent tree occurrence ↔ occurrence.lineage.any language.opensExtent = true := by
  rw [List.any_eq_true]
  constructor
  · rintro ⟨definition, _, isFunction, extent, extentMember, full, inside⟩
    have proper := Node.proper_of_mem_everywhere extentMember
    exact ⟨extent.place.node, Occurrence.node_mem_lineage proper inside, full.opensExtent isFunction⟩
  · rintro ⟨node, isLineage, opens⟩
    obtain ⟨outer, outerMember, rfl, inside⟩ := Node.outer_of_mem_lineage member isLineage
    rw [Language.opensExtent, Bool.or_eq_true, Bool.and_eq_true] at opens
    rcases opens with isFunction | ⟨decorates, holds⟩
    · obtain ⟨extent, extentMember, full⟩ := language.exists_fullExtent outerMember
      have proper := Node.proper_of_mem_everywhere extentMember
      exact ⟨outer, outerMember, isFunction, extent, extentMember, full, full.spread_subset proper inside⟩
    · obtain ⟨node, isChild, isFunction⟩ := List.any_eq_true.1 holds
      rw [← Occurrence.children_nodes] at isChild
      obtain ⟨definition, child, rfl⟩ := List.mem_map.1 isChild
      have definitionMember := Node.children_subset_everywhere outerMember child
      exact ⟨definition, definitionMember, isFunction, outer, outerMember, .decorated child decorates, inside⟩

end Language

/-! ### The listed definitions -/

namespace Constructs

variable {constructs : Constructs} {tree : Node} {root occurrence : Occurrence}

/-- The occurrence is a definition that lies in no other one. -/
def isOutermost (constructs : Constructs) (occurrence : Occurrence) : Bool :=
  (constructs.functionName occurrence.place.node).isSome && !constructs.isNested occurrence

theorem isNested_of_mem_below (isFunction : (constructs.functionName root.place.node).isSome = true)
    (member : occurrence ∈ root.below) : constructs.isNested occurrence = true :=
  isNested_of_around isFunction (Occurrence.around_of_mem_below member)

theorem isOutermost_iff (member : occurrence ∈ tree.everywhere) :
    constructs.isOutermost occurrence = true ↔
      (constructs.functionName occurrence.place.node).isSome = true ∧
      ∀ outer ∈ tree.everywhere, (constructs.functionName outer.place.node).isSome = true →
        occurrence ∉ outer.below := by
  rw [isOutermost, Bool.and_eq_true, Bool.not_eq_true']
  refine and_congr_right fun _ => ⟨?_, ?_⟩
  · intro outside outer _ isFunction below
    rw [isNested_of_mem_below isFunction below] at outside
    cases outside
  · intro outside
    refine Bool.eq_false_iff.2 fun nested => ?_
    obtain ⟨node, isAround, isFunction⟩ := List.any_eq_true.1 nested
    obtain ⟨outer, outerMember, rfl, below⟩ := Node.outer_of_mem_around member isAround
    exact outside outer outerMember isFunction below

/-- Every definition is an outermost one or lies in one. -/
theorem exists_isOutermost (proper : root.Proper) (outside : constructs.isNested root = false)
    (isFunction : (constructs.functionName occurrence.place.node).isSome = true) (member : occurrence ∈ root.spread) :
    ∃ outermost ∈ root.spread, constructs.isOutermost outermost = true ∧ occurrence ∈ outermost.spread := by
  induction root using Occurrence.from_children with
  | step root ih =>
    cases here : (constructs.functionName root.place.node).isSome with
    | true =>
      refine ⟨root, Occurrence.self_mem_spread proper, ?_, member⟩
      rw [isOutermost, here, outside]
      rfl
    | false =>
      rcases (Occurrence.mem_spread_iff proper).1 member with rfl | ⟨child, childMember, member⟩
      · rw [here] at isFunction
        cases isFunction
      · have known := Occurrence.child_of_mem childMember
        have childOutside : constructs.isNested child = false := by
          rw [isNested, known.around, List.any_cons, here]
          exact outside
        obtain ⟨outermost, inChild, found⟩ := ih child childMember known.proper childOutside member
        exact ⟨outermost, Occurrence.child_spread_subset proper childMember inChild, found⟩

end Constructs

/-! ### The calls of the listed definitions -/

namespace Constructs

variable {constructs : Constructs} {root occurrence extent : Occurrence}

/-- The calls of the function that an outline lists for an occurrence. -/
def outlinedCalls (constructs : Constructs) (occurrence : Occurrence) : List CallSite :=
  ((constructs.outlined? occurrence).map (·.graph.calls)).getD []

theorem outline_functions_calls (tree : Node) :
    (outlineTree constructs tree).functions.flatMap (·.graph.calls) =
      (constructs.outside tree).flatMap constructs.outlinedCalls := by
  rw [outline_functions]
  induction constructs.outside tree with
  | nil => rfl
  | cons occurrence rest ih =>
    rw [List.filterMap_cons, List.flatMap_cons, ← ih, outlinedCalls]
    cases constructs.outlined? occurrence <;> rfl

theorem outlinedCalls_of_none (none : constructs.functionName occurrence.place.node = none) :
    constructs.outlinedCalls occurrence = [] := by
  rw [outlinedCalls, outlined?, none]
  rfl

theorem outlinedCalls_of_extent (isFunction : (constructs.functionName occurrence.place.node).isSome = true)
    (same : constructs.extent occurrence.place = extent.place.node) :
    constructs.outlinedCalls occurrence = constructs.callsOf extent.spread := by
  obtain ⟨name, named⟩ := Option.isSome_iff_exists.1 isFunction
  rw [outlinedCalls, outlined?, named, graphOf, same, collect_spread]
  rfl

/-- The calls assigned to the functions that are listed among occurrences. -/
def assignedCalls (constructs : Constructs) (occurrences : List Occurrence) : List CallSite :=
  (occurrences.filter (!constructs.isNested ·)).flatMap constructs.outlinedCalls

theorem assignedCalls_append (first second : List Occurrence) :
    constructs.assignedCalls (first ++ second) = constructs.assignedCalls first ++ constructs.assignedCalls second := by
  rw [assignedCalls, List.filter_append, List.flatMap_append]
  rfl

theorem assignedCalls_flatMap {taken : Occurrence → Bool} {occurrences : List Occurrence}
    (each : ∀ occurrence ∈ occurrences, constructs.assignedCalls occurrence.spread =
      constructs.callsOf (occurrence.spread.filter taken)) :
    constructs.assignedCalls (occurrences.flatMap Occurrence.spread) =
      constructs.callsOf ((occurrences.flatMap Occurrence.spread).filter taken) := by
  induction occurrences with
  | nil => rfl
  | cons occurrence rest ih =>
    obtain ⟨first, others⟩ := List.forall_mem_cons.1 each
    rw [List.flatMap_cons, assignedCalls_append, List.filter_append, callsOf_append, first, ih others]

theorem assignedCalls_of_none {occurrences : List Occurrence}
    (none : ∀ occurrence ∈ occurrences, constructs.functionName occurrence.place.node = none) :
    constructs.assignedCalls occurrences = [] :=
  List.flatMap_eq_nil_iff.2 fun occurrence member => outlinedCalls_of_none (none occurrence (List.mem_of_mem_filter member))

theorem assignedCalls_of_function (proper : root.Proper) (outside : constructs.isNested root = false)
    (isFunction : (constructs.functionName root.place.node).isSome = true) :
    constructs.assignedCalls root.spread = constructs.outlinedCalls root := by
  have inside : root.below.filter (!constructs.isNested ·) = [] := by
    refine List.filter_eq_nil_iff.2 fun inner member => ?_
    simp [isNested_of_mem_below isFunction member]
  rw [assignedCalls, Occurrence.spread_eq_cons proper, List.filter_cons, outside, inside]
  exact List.flatMap_singleton _ root

end Constructs

namespace Language

variable {language : Language} {root : Occurrence}

/-- The occurrence lies in what opens an extent, or opens one. -/
def inOpened (language : Language) (occurrence : Occurrence) : Bool :=
  occurrence.lineage.any language.opensExtent

theorem isNested_of_clear (clear : root.around.any language.opensExtent = false) :
    language.constructs.isNested root = false := by
  refine Bool.eq_false_iff.2 fun nested => ?_
  obtain ⟨node, isAround, isFunction⟩ := List.any_eq_true.1 nested
  have opens : language.opensExtent node = true := by rw [opensExtent, isFunction, Bool.true_or]
  rw [List.any_eq_true.2 ⟨node, isAround, opens⟩] at clear
  cases clear

/-- Decorated functions are assigned all calls of what decorates them. -/
theorem assignedCalls_of_decorates (proper : root.Proper) (lawful : language.DecoratesLast root.place.node)
    (clear : root.around.any language.opensExtent = false) (decorates : language.decorates root.place.node = true)
    (holds : language.holdsFunction root.place.node = true) :
    language.constructs.assignedCalls root.spread = language.constructs.callsOf root.spread := by
  obtain ⟨noFunction, front, last, named, before⟩ := lawful decorates
  have split := root.children_nodes.trans named
  obtain ⟨fronts, lasts, children, rfl, isLast⟩ := List.map_eq_append_iff.1 split
  obtain ⟨definition, rfl, rfl⟩ := List.map_eq_singleton_iff.1 isLast
  have known : Occurrence.Child root definition := Occurrence.child_of_mem (by simp [children])
  -- The only function among the children is the last one.
  have isFunction : (language.constructs.functionName definition.place.node).isSome = true := by
    obtain ⟨node, member, isFunction⟩ := List.any_eq_true.1 holds
    rw [named] at member
    rcases List.mem_append.1 member with member | member
    · rw [((Node.obeys_iff _ _).1 (before node member)).1] at isFunction
      cases isFunction
    · rwa [List.mem_singleton.1 member] at isFunction
  have spread : root.spread = (root :: fronts.flatMap Occurrence.spread) ++ definition.spread := by
    rw [Occurrence.spread_eq_cons proper, Occurrence.below, children]
    simp
  have nothing : language.constructs.assignedCalls (root :: fronts.flatMap Occurrence.spread) = [] := by
    refine Constructs.assignedCalls_of_none (List.forall_mem_cons.2 ⟨noFunction, ?_⟩)
    intro inner member
    obtain ⟨child, childMember, member⟩ := List.mem_flatMap.1 member
    exact before _ (List.mem_map_of_mem childMember) _ (Occurrence.node_mem_preorder member)
  have outside : language.constructs.isNested definition = false := by
    rw [Constructs.isNested, known.around, List.any_cons, noFunction]
    exact isNested_of_clear clear
  have extent : language.constructs.extent definition.place = root.place.node := by
    rw [extent_of_child language known, if_pos decorates]
  calc language.constructs.assignedCalls root.spread
      = language.constructs.assignedCalls definition.spread := by
        rw [spread, Constructs.assignedCalls_append, nothing, List.nil_append]
    _ = language.constructs.outlinedCalls definition :=
        Constructs.assignedCalls_of_function known.proper outside isFunction
    _ = language.constructs.callsOf root.spread := Constructs.outlinedCalls_of_extent isFunction extent

/-- The calls assigned to functions are those that lie in what opens an extent, each of them once and in order. -/
theorem assignedCalls_spread (proper : root.Proper) (lawful : root.place.node.Obeys language.DecoratesLast)
    (clear : root.around.any language.opensExtent = false)
    (bare : (language.constructs.functionName root.place.node).isSome = true →
      language.constructs.extent root.place = root.place.node) :
    language.constructs.assignedCalls root.spread =
      language.constructs.callsOf (root.spread.filter language.inOpened) := by
  induction root using Occurrence.from_children with
  | step root ih =>
    obtain ⟨here, below⟩ := (Node.obeys_iff _ _).1 lawful
    -- Nothing around the root opens an extent. Either the root opens one, of all that lies in it, or the extents are
    -- those in its children.
    cases opens : language.opensExtent root.place.node with
    | true =>
      have all : root.spread.filter language.inOpened = root.spread := by
        refine List.filter_eq_self.2 fun inner member => ?_
        exact List.any_eq_true.2 ⟨_, Occurrence.node_mem_lineage proper member, opens⟩
      rw [all]
      rw [opensExtent, Bool.or_eq_true, Bool.and_eq_true] at opens
      rcases opens with isFunction | ⟨decorates, holds⟩
      · rw [Constructs.assignedCalls_of_function proper (isNested_of_clear clear) isFunction]
        exact Constructs.outlinedCalls_of_extent isFunction (bare isFunction)
      · exact assignedCalls_of_decorates proper here clear decorates holds
    | false =>
      obtain ⟨noFunction, undecorated⟩ := Bool.or_eq_false_iff.1 opens
      have skipped : [root].filter language.inOpened = [] := by
        simp [inOpened, Occurrence.lineage, opens, clear]
      have nothing : language.constructs.assignedCalls [root] = [] :=
        Constructs.assignedCalls_of_none (List.forall_mem_singleton.2 (by simpa using noFunction))
      have children : ∀ child ∈ root.children, language.constructs.assignedCalls child.spread =
          language.constructs.callsOf (child.spread.filter language.inOpened) := by
        intro child member
        have known := Occurrence.child_of_mem member
        refine ih child member known.proper (below _ known.node) ?_ ?_
        · rw [known.around, List.any_cons, opens, clear, Bool.or_false]
        · intro isFunction
          -- A decorated function would make its parent open an extent.
          rw [holdsFunction_of_child member isFunction, Bool.and_true] at undecorated
          rw [extent_of_child language known, if_neg (Bool.eq_false_iff.1 undecorated)]
      have spread : root.spread = [root] ++ root.below := Occurrence.spread_eq_cons proper
      rw [spread, List.filter_append, skipped, Constructs.assignedCalls_append, nothing, List.nil_append,
        List.nil_append]
      exact Constructs.assignedCalls_flatMap children

end Language

/-! ### Outlines -/

/-- The definitions that an outline lists: those of the tree that lie in no other one, in source order. -/
structure Outermost (language : Language) (tree : Node) (listed : List Occurrence) : Prop where
  selected : ∃ outermost : Occurrence → Bool, listed = tree.everywhere.filter outermost ∧
    ∀ occurrence ∈ tree.everywhere, outermost occurrence = true ↔
      (language.constructs.functionName occurrence.place.node).isSome = true ∧
      ∀ outer ∈ tree.everywhere, (language.constructs.functionName outer.place.node).isSome = true →
        occurrence ∉ outer.below
  apart : ∀ first ∈ listed, ∀ second ∈ listed, second ∉ first.below
  covering : ∀ definition ∈ tree.everywhere,
    (language.constructs.functionName definition.place.node).isSome = true →
      definition ∈ listed ∨ ∃ outer ∈ listed, definition ∈ outer.below

/-- A listed function tells the name and the line of a definition, and the graph of its full extent. -/
structure TellsOf (language : Language) (tree : Node) (definition : Occurrence) (function : FunctionOutline) : Prop where
  name : language.constructs.functionName definition.place.node = some function.name
  line : function.line = definition.place.node.line
  graph : ∃ extent ∈ tree.everywhere, language.FullExtent definition extent ∧
    function.graph = ⟨language.constructs.callsOf extent.spread, language.constructs.importsOf extent.spread⟩

section

variable {language : Language} {tree : Node}

theorem outermost_listed (language : Language) (tree : Node) :
    Outermost language tree (tree.everywhere.filter language.constructs.isOutermost) where
  selected := ⟨_, rfl, fun _ member => Constructs.isOutermost_iff member⟩
  apart := by
    intro first firstListed second secondListed below
    obtain ⟨firstMember, firstOutermost⟩ := List.mem_filter.1 firstListed
    obtain ⟨secondMember, secondOutermost⟩ := List.mem_filter.1 secondListed
    have isFunction := ((Constructs.isOutermost_iff firstMember).1 firstOutermost).1
    exact ((Constructs.isOutermost_iff secondMember).1 secondOutermost).2 first firstMember isFunction below
  covering := by
    intro definition member isFunction
    obtain ⟨outer, outerMember, outermost, inside⟩ :=
      Constructs.exists_isOutermost (Occurrence.proper_whole tree) List.any_nil isFunction member
    have listed := List.mem_filter.2 ⟨outerMember, outermost⟩
    rw [Occurrence.spread_eq_cons (Node.proper_of_mem_everywhere outerMember)] at inside
    rcases List.mem_cons.1 inside with same | below
    · exact .inl (same ▸ listed)
    · exact .inr ⟨outer, listed, below⟩

theorem tellsOf_of_outlined? {definition : Occurrence} {function : FunctionOutline} (member : definition ∈ tree.everywhere)
    (outlined : language.constructs.outlined? definition = some function) : TellsOf language tree definition function := by
  obtain ⟨name, named, rfl⟩ := Option.map_eq_some_iff.1 outlined
  obtain ⟨extent, extentMember, full⟩ := language.exists_fullExtent member
  exact ⟨named, rfl, extent, extentMember, full, full.graph⟩

theorem forall₂_tellsOf {occurrences : List Occurrence} (members : occurrences ⊆ tree.everywhere) :
    List.Forall₂ (TellsOf language tree) (occurrences.filter language.constructs.isOutermost)
      ((occurrences.filter (!language.constructs.isNested ·)).filterMap language.constructs.outlined?) := by
  induction occurrences with
  | nil => exact .nil
  | cons occurrence rest ih =>
    obtain ⟨member, others⟩ := List.cons_subset.1 members
    rw [List.filter_cons, List.filter_cons, Constructs.isOutermost]
    cases language.constructs.isNested occurrence with
    | true => simpa using ih others
    | false =>
      cases outlined : language.constructs.outlined? occurrence with
      | none =>
        have noFunction := Option.map_eq_none_iff.1 outlined
        simpa [noFunction, outlined] using ih others
      | some function =>
        have tells := tellsOf_of_outlined? member outlined
        simpa [tells.name, outlined] using ⟨tells, ih others⟩

theorem outline_calls_eq (lawful : tree.Obeys language.DecoratesLast) :
    (outlineTree language.constructs tree).functions.flatMap (·.graph.calls) =
      language.constructs.callsOf (tree.everywhere.filter language.inOpened) := by
  rw [Constructs.outline_functions_calls]
  exact Language.assignedCalls_spread (Occurrence.proper_whole tree) lawful List.any_nil
    fun _ => (language.fullExtent_whole tree).node

end

/-- The calls of the functions, one function after the other, are calls of the tree in their order: those at the
occurrences in the full extents of definitions, each once, and no others. The listed definitions are those in no
other one, and every definition is one of them or lies in one. -/
def AssignsCalls (language : Language) (tree : Node) (functions : List FunctionOutline) (calls : List CallSite) : Prop :=
  ∃ listed, Outermost language tree listed ∧ List.Forall₂ (TellsOf language tree) listed functions ∧
    calls = language.constructs.callsOf tree.everywhere ∧ (functions.flatMap (·.graph.calls)).Sublist calls ∧
    ∃ assigned : Occurrence → Bool,
      (∀ occurrence ∈ tree.everywhere, assigned occurrence = true ↔ language.InExtent tree occurrence) ∧
      functions.flatMap (·.graph.calls) = language.constructs.callsOf (tree.everywhere.filter assigned)

theorem assignsCalls {language : Language} {tree : Node} (lawful : tree.Obeys language.DecoratesLast) :
    AssignsCalls language tree (outlineTree language.constructs tree).functions
      (extractTree language.constructs tree).calls := by
  have assigned := outline_calls_eq lawful
  have whole : (extractTree language.constructs tree).calls = language.constructs.callsOf tree.everywhere := by
    rw [Constructs.extractTree_everywhere]
  refine ⟨_, outermost_listed _ tree, ?_, whole, ?_, language.inOpened, fun _ member => (Language.inExtent_iff member).symm,
    assigned⟩
  · rw [Constructs.outline_functions]
    exact forall₂_tellsOf (List.Subset.refl _)
  · rw [assigned, whole]
    exact List.filter_sublist.flatMap _

/-- Outlines assign each call in an extent to one function, for every tree in which what is decorated comes last under
its decorators, with no functions before it. The trees of source units are like that. -/
theorem outline_assigns_calls :
    (∀ (language : Language) (tree : Node), tree.Obeys language.DecoratesLast →
      AssignsCalls language tree (outlineTree language.constructs tree).functions
        (extractTree language.constructs tree).calls) ∧
    ∀ (unit : SourceUnit) (tree : Node), checkedTree unit = .ok tree → tree.Obeys unit.language.DecoratesLast ∧
      ∃ outlined whole, outline unit = .ok outlined ∧ extract unit = .ok whole ∧
        AssignsCalls unit.language tree outlined.functions whole.calls := by
  refine ⟨fun language tree => assignsCalls, fun unit tree parsed => ?_⟩
  have lawful : tree.Obeys unit.language.DecoratesLast := by
    rw [checkedTree_eq_ok parsed]
    exact Language.parse_decoratesLast unit
  exact ⟨lawful, _, _, outline_of_checkedTree parsed, extract_of_checkedTree parsed, assignsCalls lawful⟩

section

/-- A decorated class with a decorated method, a function in the method, and a function under a condition. -/
def nestingUnit : SourceUnit :=
  ⟨.python, "@log()\nclass A:\n @wrap(mark())\n def f():\n  def g():\n   h()\nif k():\n def m():\n  n()\n"⟩

/-- The decorator of the method belongs to it; that of the class and the condition belong to no function. -/
theorem outline_of_nesting :
    ∃ tree, checkedTree nestingUnit = .ok tree ∧
      ∃ outlined whole listed, outline nestingUnit = .ok outlined ∧ extract nestingUnit = .ok whole ∧
        Outermost .python tree listed ∧ List.Forall₂ (TellsOf .python tree) listed outlined.functions ∧
        outlined.functions = [⟨"f", 4, ⟨[⟨"wrap", 3⟩, ⟨"mark", 3⟩, ⟨"h", 6⟩], []⟩⟩, ⟨"m", 8, ⟨[⟨"n", 9⟩], []⟩⟩] ∧
        whole.calls = [⟨"log", 1⟩, ⟨"wrap", 3⟩, ⟨"mark", 3⟩, ⟨"h", 6⟩, ⟨"k", 7⟩, ⟨"n", 9⟩] := by
  have seen : ((parse nestingUnit).firstErrorLine,
      (outlineTree Python.constructs (parse nestingUnit)).functions,
      (extractTree Python.constructs (parse nestingUnit)).calls) =
      (none, [⟨"f", 4, ⟨[⟨"wrap", 3⟩, ⟨"mark", 3⟩, ⟨"h", 6⟩], []⟩⟩, ⟨"m", 8, ⟨[⟨"n", 9⟩], []⟩⟩],
        [⟨"log", 1⟩, ⟨"wrap", 3⟩, ⟨"mark", 3⟩, ⟨"h", 6⟩, ⟨"k", 7⟩, ⟨"n", 9⟩]) := by decide +kernel
  simp only [Prod.mk.injEq] at seen
  obtain ⟨readable, functions, calls⟩ := seen
  have parsed : checkedTree nestingUnit = .ok (parse nestingUnit) := by rw [checkedTree, readable]
  generalize parse nestingUnit = tree at functions calls parsed
  obtain ⟨_, outlined, whole, outlines, extracted, listed, outermost, tells, _⟩ :=
    outline_assigns_calls.2 nestingUnit tree parsed
  have sameOutline : outlined = outlineTree Python.constructs tree :=
    Except.ok.inj (outlines.symm.trans (outline_of_checkedTree parsed))
  have sameGraph : whole = extractTree Python.constructs tree :=
    Except.ok.inj (extracted.symm.trans (extract_of_checkedTree parsed))
  refine ⟨tree, parsed, outlined, whole, listed, outlines, extracted, outermost, tells, ?_, ?_⟩
  · rw [sameOutline, functions]
  · rw [sameGraph, calls]

end

end CallPolicy
