import CallPolicy.CallGraph.Extraction
import CallPolicy.Proofs.Syntax.Walk

/-! Definitions of functions, and which of them the analyses take.

Extraction takes the first definition of a name, wherever it stands. An outline takes the
definitions that lie in no other function.
-/

set_option autoImplicit false

namespace CallPolicy

open Syntax

theorem checkedTree_eq_ok {unit : SourceUnit} {tree : Node} (checked : checkedTree unit = .ok tree) :
    tree = parse unit := by
  unfold checkedTree at checked
  dsimp only at checked
  split at checked
  · cases checked
  · exact (Except.ok.inj checked).symm

namespace Constructs

variable (constructs : Constructs)

/-- The occurrence lies in a function. -/
def isNested (occurrence : Occurrence) : Bool :=
  occurrence.around.any fun node => (constructs.functionName node).isSome

/-- The first definition of a name in source order. -/
def firstDefinition? (tree : Node) (name : String) : Option Occurrence :=
  tree.everywhere.find? fun occurrence => constructs.functionName occurrence.place.node == some name

def graphOf (definition : Occurrence) : CallGraph :=
  collect constructs (constructs.extent definition.place)

/-- All definitions of a name in source order, wherever they stand. -/
def definitions (tree : Node) (name : String) : List Occurrence :=
  tree.everywhere.filter fun occurrence => constructs.functionName occurrence.place.node == some name

theorem firstDefinition?_eq_head? (tree : Node) (name : String) :
    constructs.firstDefinition? tree name = (constructs.definitions tree name).head? := by
  rw [definitions, List.head?_filter, firstDefinition?]

theorem extractFunctionTree_eq (tree : Node) (name : String) :
    extractFunctionTree constructs tree name = (constructs.firstDefinition? tree name).map constructs.graphOf := by
  rw [extractFunctionTree, Place.all_eq, List.find?_map, Option.map_map]
  rfl

theorem firstDefinition?_name {tree : Node} {name : String} {definition : Occurrence}
    (found : constructs.firstDefinition? tree name = some definition) :
    constructs.functionName definition.place.node = some name := by
  unfold firstDefinition? at found
  have held := List.find?_some found
  exact eq_of_beq held

theorem reachable_eq_not_isNested (occurrence : Occurrence) :
    occurrence.reachable (fun node => (constructs.functionName node).isNone) = !constructs.isNested occurrence := by
  rw [Occurrence.reachable, isNested, List.any_eq_not_all_not, Bool.not_not]
  simp

theorem outlinePlaces_eq (tree : Node) :
    outlinePlaces constructs tree = (tree.everywhere.filter (!constructs.isNested ·)).map (·.place) := by
  rw [outlinePlaces, Place.reached_eq fun node => (constructs.functionName node).isNone]
  simp only [reachable_eq_not_isNested]

theorem mem_outline_functions (tree : Node) (outlined : FunctionOutline) :
    outlined ∈ (outlineTree constructs tree).functions ↔
      ∃ definition ∈ tree.everywhere, constructs.isNested definition = false ∧
        constructs.functionName definition.place.node = some outlined.name ∧
        outlined.line = definition.place.node.line ∧ outlined.graph = constructs.graphOf definition := by
  rw [outlineTree, outlinePlaces_eq]
  simp only [List.mem_filterMap, List.mem_map, List.mem_filter, Bool.not_eq_true', Option.map_eq_some_iff]
  constructor
  · rintro ⟨place, ⟨definition, ⟨member, outer⟩, samePlace⟩, name, named, same⟩
    subst samePlace same
    exact ⟨definition, member, outer, named, rfl, rfl⟩
  · rintro ⟨definition, member, outer, named, line, graph⟩
    refine ⟨definition.place, ⟨definition, ⟨member, outer⟩, rfl⟩, outlined.name, named, ?_⟩
    obtain ⟨name, _, _⟩ := outlined
    subst line graph
    rfl

/-- The functions of one name in an outline are its definitions outside all functions. -/
theorem outline_functions_named (tree : Node) (name : String) :
    (outlineTree constructs tree).functions.filter (·.name == name) =
      ((constructs.definitions tree name).filter (!constructs.isNested ·)).map fun definition =>
        ⟨name, definition.place.node.line, constructs.graphOf definition⟩ := by
  rw [outlineTree, outlinePlaces_eq, definitions, List.filter_filter]
  simp only [List.filterMap_map]
  induction tree.everywhere with
  | nil => rfl
  | cons occurrence rest ih =>
    rw [List.filter_cons, List.filter_cons]
    cases constructs.isNested occurrence with
    | true => simpa using ih
    | false =>
      cases named : constructs.functionName occurrence.place.node with
      | none => simpa [named] using ih
      | some other =>
        by_cases same : other = name
        · subst same
          simpa [named, graphOf] using ih
        · simpa [named, same] using ih

/-- A name that an outline lists has a first definition. -/
theorem firstDefinition?_of_outlined {tree : Node} {outlined : FunctionOutline}
    (member : outlined ∈ (outlineTree constructs tree).functions) :
    ∃ definition, constructs.firstDefinition? tree outlined.name = some definition := by
  obtain ⟨definition, member, _, named, _⟩ := (constructs.mem_outline_functions tree outlined).1 member
  cases found : constructs.firstDefinition? tree outlined.name with
  | some first => exact ⟨first, rfl⟩
  | none => exact absurd (beq_iff_eq.2 named) (List.find?_eq_none.1 found definition member)

/-- A first definition that lies in no function is in the outline. -/
theorem outlined_of_firstDefinition? {tree : Node} {name : String} {definition : Occurrence}
    (found : constructs.firstDefinition? tree name = some definition) (outer : constructs.isNested definition = false) :
    ⟨name, definition.place.node.line, constructs.graphOf definition⟩ ∈ (outlineTree constructs tree).functions :=
  (constructs.mem_outline_functions tree _).2
    ⟨definition, List.mem_of_find?_eq_some found, outer, constructs.firstDefinition?_name found, rfl, rfl⟩

/-! ### What an outline lists -/

/-- The occurrences outside all functions. -/
def outside (tree : Node) : List Occurrence :=
  tree.everywhere.filter (!constructs.isNested ·)

/-- The function that an outline lists for an occurrence. -/
def outlined? (occurrence : Occurrence) : Option FunctionOutline :=
  (constructs.functionName occurrence.place.node).map fun name =>
    ⟨name, occurrence.place.node.line, constructs.graphOf occurrence⟩

/-- The class that an outline lists for an occurrence. -/
def outlinedClass? (occurrence : Occurrence) : Option ClassOutline :=
  if (constructs.functionName occurrence.place.node).isSome then none
  else (constructs.className occurrence.place.node).map fun name =>
    ⟨name, occurrence.place.node.line, constructs.classMarkers occurrence.place⟩

theorem outline_functions (tree : Node) :
    (outlineTree constructs tree).functions = (constructs.outside tree).filterMap constructs.outlined? := by
  rw [outlineTree, outlinePlaces_eq]
  exact List.filterMap_map

theorem outline_classes (tree : Node) :
    (outlineTree constructs tree).classes = (constructs.outside tree).filterMap constructs.outlinedClass? := by
  rw [outlineTree, outlinePlaces_eq]
  exact List.filterMap_map

end Constructs

/-! ### Units that parse -/

variable {unit : SourceUnit} {tree : Node} {name : String}

theorem extract_of_checkedTree (parsed : checkedTree unit = .ok tree) :
    extract unit = .ok (extractTree unit.language.constructs tree) := by
  rw [extract, parsed]
  rfl

theorem outline_of_checkedTree (parsed : checkedTree unit = .ok tree) :
    outline unit = .ok (outlineTree unit.language.constructs tree) := by
  rw [outline, parsed]
  rfl

theorem extractFunction_of_firstDefinition? {definition : Occurrence} (parsed : checkedTree unit = .ok tree)
    (found : unit.language.constructs.firstDefinition? tree name = some definition) :
    extractFunction unit name = .ok (unit.language.constructs.graphOf definition) := by
  unfold extractFunction
  simp only [parsed, Bind.bind, Except.bind, Constructs.extractFunctionTree_eq, found, Option.map_some]

theorem extractFunction_of_missing (parsed : checkedTree unit = .ok tree)
    (missing : unit.language.constructs.firstDefinition? tree name = none) :
    extractFunction unit name = .error (.functionNotFound name unit.language) := by
  unfold extractFunction
  simp only [parsed, Bind.bind, Except.bind, Constructs.extractFunctionTree_eq, missing, Option.map_none]

end CallPolicy
