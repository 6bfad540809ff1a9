import CallPolicy.Proofs.Syntax.Subtrees

/-! Trees without their comments.

Taking the comments out of a tree leaves lines and texts as they are. A walk then meets the nodes that stand in
no comment, in the same order, each of them without the comments in it.
-/

set_option autoImplicit false

namespace CallPolicy.Syntax

/-! ### Lists from which something is left out -/

section

variable {α β γ : Type} {keep : α → Bool} {image : α → β} {values : List α}

theorem find?_image {select : α → Bool} {selectImage : β → Bool}
    (same : ∀ value ∈ values, keep value = true → selectImage (image value) = select value)
    (kept : ∀ value ∈ values, keep value = false → select value = false) :
    ((values.filter keep).map image).find? selectImage = (values.find? select).map image := by
  induction values with
  | nil => rfl
  | cons value rest ih =>
    obtain ⟨sameHere, sameLater⟩ := List.forall_mem_cons.1 same
    obtain ⟨keptHere, keptLater⟩ := List.forall_mem_cons.1 kept
    have tail := ih sameLater keptLater
    cases kept : keep value with
    | false =>
      rw [List.filter_cons_of_neg (by simp [kept]), List.find?_cons_of_neg (by simp [keptHere kept])]
      exact tail
    | true =>
      rw [List.filter_cons_of_pos kept, List.map_cons, List.find?_cons, List.find?_cons, sameHere kept]
      cases select value with
      | true => rfl
      | false => exact tail

theorem filterMap_image {read : α → Option γ} {readImage : β → Option γ}
    (same : ∀ value ∈ values, keep value = true → readImage (image value) = read value)
    (kept : ∀ value ∈ values, keep value = false → read value = none) :
    ((values.filter keep).map image).filterMap readImage = values.filterMap read := by
  rw [List.filterMap_map, List.filterMap_filter]
  refine List.filterMap_congr fun value member => ?_
  cases known : keep value with
  | false => simp [kept value member known]
  | true => simp [same value member known]

theorem flatMap_image {read : α → List γ} {readImage : β → List γ}
    (same : ∀ value ∈ values, keep value = true → readImage (image value) = read value)
    (kept : ∀ value ∈ values, keep value = false → read value = []) :
    ((values.filter keep).map image).flatMap readImage = values.flatMap read := by
  induction values with
  | nil => rfl
  | cons value rest ih =>
    obtain ⟨sameHere, sameLater⟩ := List.forall_mem_cons.1 same
    obtain ⟨keptHere, keptLater⟩ := List.forall_mem_cons.1 kept
    rw [List.flatMap_cons, ← ih sameLater keptLater]
    cases known : keep value with
    | false => rw [List.filter_cons_of_neg (by simp [known]), keptHere known, List.nil_append]
    | true => rw [List.filter_cons_of_pos known, List.map_cons, List.flatMap_cons, sameHere known]

end

/-! ### Stripping -/

namespace Node

def isComment (node : Node) : Bool :=
  node.kind == .comment

mutual

/-- The tree without the comments in it. -/
def stripped : Node → Node
  | ⟨kind, named, role, line, text, missing, broken, children⟩ =>
    ⟨kind, named, role, line, text, missing, broken, strippedAll children⟩

def strippedAll : List Node → List Node
  | [] => []
  | node :: rest => if node.isComment then strippedAll rest else node.stripped :: strippedAll rest

end

@[simp]
theorem stripped_kind (node : Node) : node.stripped.kind = node.kind := by
  cases node
  rw [stripped]

@[simp]
theorem stripped_named (node : Node) : node.stripped.named = node.named := by
  cases node
  rw [stripped]

@[simp]
theorem stripped_role (node : Node) : node.stripped.role = node.role := by
  cases node
  rw [stripped]

@[simp]
theorem stripped_line (node : Node) : node.stripped.line = node.line := by
  cases node
  rw [stripped]

@[simp]
theorem stripped_text (node : Node) : node.stripped.text = node.text := by
  cases node
  rw [stripped]

theorem text_of_stripped? (found : Option Node) : (found.map stripped).map (·.text) = found.map (·.text) := by
  rw [Option.map_map]
  congr 1
  funext node
  exact node.stripped_text

theorem strippedAll_eq (nodes : List Node) : strippedAll nodes = (nodes.filter (!·.isComment)).map stripped := by
  induction nodes with
  | nil => rw [strippedAll, List.filter_nil, List.map_nil]
  | cons node rest ih =>
    rw [strippedAll]
    cases comment : node.isComment <;> simp [comment, ih]

theorem stripped_children (node : Node) : node.stripped.children = (node.children.filter (!·.isComment)).map stripped := by
  cases node
  rw [stripped, strippedAll_eq]

theorem stripped_mem_children {node child : Node} (member : child ∈ node.children) (noComment : child.isComment = false) :
    child.stripped ∈ node.stripped.children := by
  rw [stripped_children]
  exact List.mem_map_of_mem (List.mem_filter.2 ⟨member, by rw [noComment]; rfl⟩)

theorem stripped_namedChildren (node : Node) :
    node.stripped.namedChildren = (node.namedChildren.filter (!·.isComment)).map stripped := by
  have same : (fun child : Node => child.named) ∘ stripped = fun child => child.named := by
    funext child
    exact child.stripped_named
  rw [namedChildren, stripped_children, List.filter_map, same, namedChildren, List.filter_comm]

end Node

/-! ### Walks -/

/-- The place in the tree without comments. -/
def Place.stripped (place : Place) : Place where
  node := place.node.stripped
  parent := place.parent.map Node.stripped
  earlier := (place.earlier.filter (!·.isComment)).map Node.stripped

/-- The occurrence in the tree without comments. -/
def Occurrence.stripped (occurrence : Occurrence) : Occurrence where
  place := occurrence.place.stripped
  around := occurrence.around.map Node.stripped

@[simp]
theorem Occurrence.stripped_node (occurrence : Occurrence) :
    occurrence.stripped.place.node = occurrence.place.node.stripped :=
  rfl

/-- The occurrence is no comment and stands in none. -/
def Occurrence.outsideComments (occurrence : Occurrence) : Bool :=
  occurrence.lineage.all (!·.isComment)

theorem Occurrence.outsideComments_iff {occurrence : Occurrence} :
    occurrence.outsideComments = true ↔ ∀ node ∈ occurrence.lineage, node.isComment = false := by
  simp [outsideComments, List.all_eq_true]

theorem Occurrence.noComment {occurrence : Occurrence} (outside : occurrence.outsideComments = true) :
    occurrence.place.node.isComment = false :=
  outsideComments_iff.1 outside _ List.mem_cons_self

namespace Node

/-- All of a comment stands in it. -/
theorem occurrences_in_comment {node : Node} (comment : node.isComment = true) (around earlier : List Node) :
    (node.occurrences around earlier).filter (·.outsideComments) = [] := by
  refine List.filter_eq_nil_iff.2 fun occurrence member outside => ?_
  have inside : node ∈ occurrence.lineage := by
    rw [occurrences_eq] at member
    rcases List.mem_cons.1 member with rfl | member
    · exact List.mem_cons_self
    · exact List.mem_cons_of_mem _ ((around_of_mem_occurrencesIn _ member).subset List.mem_cons_self)
  rw [Occurrence.outsideComments_iff.1 outside node inside] at comment
  cases comment

mutual

/-- The occurrences of a tree without comments are those of the tree that stand in no comment. -/
theorem occurrences_stripped {around : List Node} (outside : ∀ outer ∈ around, outer.isComment = false)
    (earlier : List Node) : (node : Node) → node.isComment = false →
      node.stripped.occurrences (around.map stripped) ((earlier.filter (!·.isComment)).map stripped) =
        ((node.occurrences around earlier).filter (·.outsideComments)).map Occurrence.stripped
  | ⟨kind, named, role, line, text, missing, broken, children⟩, noComment => by
    have lineage : ∀ outer ∈ ⟨kind, named, role, line, text, missing, broken, children⟩ :: around, outer.isComment = false :=
      List.forall_mem_cons.2 ⟨noComment, outside⟩
    have below := occurrencesIn_stripped lineage [] children
    rw [occurrences, List.filter_cons_of_pos (by exact Occurrence.outsideComments_iff.2 lineage), List.map_cons, ← below,
      stripped, occurrences, ← stripped, List.head?_map]
    rfl

theorem occurrencesIn_stripped {around : List Node} (outside : ∀ outer ∈ around, outer.isComment = false)
    (earlier : List Node) : (nodes : List Node) →
      occurrencesIn (around.map stripped) ((earlier.filter (!·.isComment)).map stripped) (strippedAll nodes) =
        ((occurrencesIn around earlier nodes).filter (·.outsideComments)).map Occurrence.stripped
  | [] => by
    rw [strippedAll, occurrencesIn, occurrencesIn, List.filter_nil, List.map_nil]
  | node :: rest => by
    rw [strippedAll, occurrencesIn]
    cases named : node.named with
    | false =>
      have later := occurrencesIn_stripped outside earlier rest
      split
      · exact later
      · rw [occurrencesIn, stripped_named, named]
        exact later
    | true =>
      have later := occurrencesIn_stripped outside (node :: earlier) rest
      rw [if_pos rfl, List.filter_append, List.map_append]
      cases comment : node.isComment with
      | true =>
        rw [List.filter_cons_of_neg (by simp [comment])] at later
        rw [if_pos rfl, later, occurrences_in_comment comment, List.map_nil, List.nil_append]
      | false =>
        have first := occurrences_stripped outside earlier node comment
        rw [List.filter_cons_of_pos (by simp [comment]), List.map_cons] at later
        rw [if_neg Bool.false_ne_true, occurrencesIn, stripped_named, named, if_pos rfl, first, later]

end

theorem everywhere_stripped {tree : Node} (noComment : tree.isComment = false) :
    tree.stripped.everywhere = (tree.everywhere.filter (·.outsideComments)).map Occurrence.stripped :=
  occurrences_stripped (List.forall_mem_nil _) [] tree noComment

end Node

/-! ### What holds all around an occurrence -/

namespace Occurrence

/-- The property holds of the node, of all around it and of its siblings before it. -/
structure Within (property : Node → Prop) (occurrence : Occurrence) : Prop where
  node : property occurrence.place.node
  around : ∀ outer ∈ occurrence.around, property outer
  earlier : ∀ sibling ∈ occurrence.place.earlier, property sibling
  parent : occurrence.Proper

end Occurrence

namespace Node

variable {property : Node → Prop}

mutual

theorem within_occurrences (inherited : ∀ node, property node → ∀ child ∈ node.namedChildren, property child)
    {around earlier : List Node} (outer : ∀ node ∈ around, property node) (before : ∀ node ∈ earlier, property node) :
    (node : Node) → property node → ∀ occurrence ∈ node.occurrences around earlier, occurrence.Within property
  | ⟨kind, named, role, line, text, missing, broken, children⟩, held => by
    rw [occurrences, List.forall_mem_cons]
    exact ⟨⟨held, outer, before, rfl⟩, within_occurrencesIn inherited (List.forall_mem_cons.2 ⟨held, outer⟩)
      (List.forall_mem_nil _) children (inherited _ held)⟩

theorem within_occurrencesIn (inherited : ∀ node, property node → ∀ child ∈ node.namedChildren, property child)
    {around earlier : List Node} (outer : ∀ node ∈ around, property node) (before : ∀ node ∈ earlier, property node) :
    (nodes : List Node) → (∀ node ∈ nodes.filter (·.named), property node) →
      ∀ occurrence ∈ occurrencesIn around earlier nodes, occurrence.Within property
  | [], _ => by
    rw [occurrencesIn]
    exact List.forall_mem_nil _
  | node :: rest, held => by
    rw [occurrencesIn]
    split
    · next named =>
      rw [List.filter_cons_of_pos named] at held
      obtain ⟨here, later⟩ := List.forall_mem_cons.1 held
      rw [List.forall_mem_append]
      exact ⟨within_occurrences inherited outer before node here,
        within_occurrencesIn inherited outer (List.forall_mem_cons.2 ⟨here, before⟩) rest later⟩
    · next unnamed =>
      rw [List.filter_cons_of_neg unnamed] at held
      exact within_occurrencesIn inherited outer before rest held

end

/-- A property that named children inherit holds all around each occurrence. -/
theorem within_everywhere (inherited : ∀ node, property node → ∀ child ∈ node.namedChildren, property child)
    {tree : Node} (held : property tree) : ∀ occurrence ∈ tree.everywhere, occurrence.Within property :=
  within_occurrences inherited (List.forall_mem_nil _) (List.forall_mem_nil _) tree held

end Node

end CallPolicy.Syntax
