import CallPolicy.Syntax.Walk
import Mathlib.Algebra.BigOperators.Group.List.Basic
import Mathlib.Algebra.GroupWithZero.Nat

/-! Walks with a stack are recursions on the tree.

An occurrence of a node keeps all the nodes around it. A walk that enters only some nodes sees the
occurrences that have no other nodes around them, in the same order.
-/

set_option autoImplicit false

namespace CallPolicy.Syntax

/-- A place of a tree with the nodes that it lies in, the nearest one first. -/
structure Occurrence where
  place : Place
  around : List Node

namespace Node

mutual

/-- The occurrences of a tree in source order, itself first. -/
def occurrences (around earlier : List Node) : Node → List Occurrence
  | ⟨kind, named, role, line, text, missing, broken, children⟩ =>
    let node : Node := ⟨kind, named, role, line, text, missing, broken, children⟩
    ⟨⟨node, around.head?, earlier⟩, around⟩ :: occurrencesIn (node :: around) [] children

def occurrencesIn (around earlier : List Node) : List Node → List Occurrence
  | [] => []
  | node :: rest =>
    if node.named then node.occurrences around earlier ++ occurrencesIn around (node :: earlier) rest
    else occurrencesIn around earlier rest

end

theorem occurrences_eq (around earlier : List Node) (node : Node) :
    node.occurrences around earlier =
      ⟨⟨node, around.head?, earlier⟩, around⟩ :: occurrencesIn (node :: around) [] node.children := by
  cases node
  rw [occurrences]

theorem occurrencesIn_eq_filter (around earlier nodes : List Node) :
    occurrencesIn around earlier nodes = occurrencesIn around earlier (nodes.filter (·.named)) := by
  induction nodes generalizing earlier with
  | nil => rfl
  | cons node rest ih =>
    rw [List.filter_cons]
    split
    · next named => rw [occurrencesIn, occurrencesIn, if_pos named, if_pos named, ← ih]
    · next unnamed => rw [occurrencesIn, if_neg unnamed, ih]

theorem preorders_eq_flatMap (nodes : List Node) : preorders nodes = (nodes.filter (·.named)).flatMap preorder := by
  induction nodes with
  | nil => rw [preorders, List.filter_nil, List.flatMap_nil]
  | cons node rest ih =>
    rw [preorders, List.filter_cons]
    split
    · rw [List.flatMap_cons, ih]
    · exact ih

theorem preorder_eq (node : Node) : node.preorder = node :: node.namedChildren.flatMap preorder := by
  cases node
  rw [preorder, preorders_eq_flatMap]
  rfl

mutual

/-- Only the nodes around a subtree are around all that occurs in it. -/
theorem around_of_mem_occurrences {around earlier : List Node} {occurrence : Occurrence} :
    (node : Node) → occurrence ∈ node.occurrences around earlier → around <:+ occurrence.around
  | ⟨kind, named, role, line, text, missing, broken, children⟩, member => by
    rw [occurrences] at member
    rcases List.mem_cons.1 member with same | member
    · exact same ▸ List.suffix_refl around
    · exact (List.suffix_cons _ around).trans (around_of_mem_occurrencesIn children member)

theorem around_of_mem_occurrencesIn {around earlier : List Node} {occurrence : Occurrence} :
    (nodes : List Node) → occurrence ∈ occurrencesIn around earlier nodes → around <:+ occurrence.around
  | [], member => by
    rw [occurrencesIn] at member
    cases member
  | node :: rest, member => by
    rw [occurrencesIn] at member
    split at member
    · rcases List.mem_append.1 member with member | member
      · exact around_of_mem_occurrences node member
      · exact around_of_mem_occurrencesIn rest member
    · exact around_of_mem_occurrencesIn rest member

end

mutual

/-- The nodes that occur in a tree are those of its preorder. -/
theorem occurrences_nodes (around earlier : List Node) :
    (node : Node) → (node.occurrences around earlier).map (·.place.node) = node.preorder
  | ⟨kind, named, role, line, text, missing, broken, children⟩ => by
    rw [occurrences, preorder, List.map_cons, occurrencesIn_nodes]

theorem occurrencesIn_nodes (around earlier : List Node) :
    (nodes : List Node) → (occurrencesIn around earlier nodes).map (·.place.node) = preorders nodes
  | [] => by
    rw [occurrencesIn, preorders, List.map_nil]
  | node :: rest => by
    rw [occurrencesIn, preorders]
    split
    · rw [List.map_append, occurrences_nodes, occurrencesIn_nodes]
    · exact occurrencesIn_nodes around earlier rest

end

mutual

/-- What occurs in a tree below its root is a named child of a node of the tree. -/
theorem parent_of_mem_occurrences {around earlier : List Node} {occurrence : Occurrence} :
    (node : Node) → occurrence ∈ node.occurrences around earlier →
      occurrence.place = ⟨node, around.head?, earlier⟩ ∨
      ∃ parent ∈ node.preorder, occurrence.place.parent = some parent ∧ occurrence.place.node ∈ parent.namedChildren
  | ⟨kind, named, role, line, text, missing, broken, children⟩, member => by
    rw [occurrences] at member
    rw [preorder]
    rcases List.mem_cons.1 member with same | member
    · exact .inl (same ▸ rfl)
    · rcases parent_of_mem_occurrencesIn children member with ⟨parent, child⟩ | ⟨parent, found, rest⟩
      · exact .inr ⟨_, List.mem_cons_self, parent, child⟩
      · exact .inr ⟨parent, List.mem_cons_of_mem _ found, rest⟩
termination_by structural node => node

theorem parent_of_mem_occurrencesIn {parent : Node} {around earlier : List Node} {occurrence : Occurrence} :
    (nodes : List Node) → occurrence ∈ occurrencesIn (parent :: around) earlier nodes →
      (occurrence.place.parent = some parent ∧ occurrence.place.node ∈ nodes.filter (·.named)) ∨
      ∃ other ∈ preorders nodes, occurrence.place.parent = some other ∧ occurrence.place.node ∈ other.namedChildren
  | [], member => by
    rw [occurrencesIn] at member
    cases member
  | node :: rest, member => by
    rw [occurrencesIn] at member
    rw [preorders, List.filter_cons]
    split at member
    · next named =>
      rw [if_pos named, if_pos named]
      rcases List.mem_append.1 member with member | member
      · rcases parent_of_mem_occurrences node member with same | ⟨other, found, child⟩
        · exact .inl ⟨congrArg Place.parent same, congrArg Place.node same ▸ List.mem_cons_self⟩
        · exact .inr ⟨other, List.mem_append_left _ found, child⟩
      · rcases parent_of_mem_occurrencesIn rest member with ⟨same, child⟩ | ⟨other, found, child⟩
        · exact .inl ⟨same, List.mem_cons_of_mem _ child⟩
        · exact .inr ⟨other, List.mem_append_right _ found, child⟩
    · next unnamed =>
      rw [if_neg unnamed, if_neg unnamed]
      exact parent_of_mem_occurrencesIn rest member
termination_by structural nodes => nodes

end

theorem sizes_filter_le (select : Node → Bool) (nodes : List Node) :
    sizes (nodes.filter select) ≤ sizes nodes := by
  induction nodes with
  | nil => exact Nat.le_refl _
  | cons node rest ih =>
    rw [List.filter_cons]
    split
    · rw [sizes, sizes]
      exact Nat.add_le_add_left ih _
    · rw [sizes]
      exact Nat.le_trans ih (Nat.le_add_left _ _)

end Node

/-! ### Stacks -/

namespace Occurrence

/-- The occurrences that a stack holds, and all that occurs below them. -/
def spread (occurrence : Occurrence) : List Occurrence :=
  occurrence.place.node.occurrences occurrence.around occurrence.place.earlier

/-- The parent of a place is the nearest node around it. -/
def Proper (occurrence : Occurrence) : Prop :=
  occurrence.place.parent = occurrence.around.head?

/-- The named children from some of them on, the ones before them being known. -/
def siblings (around : List Node) : List Node → List Node → List Occurrence
  | _, [] => []
  | earlier, node :: rest => ⟨⟨node, around.head?, earlier⟩, around⟩ :: siblings around (node :: earlier) rest

def children (occurrence : Occurrence) : List Occurrence :=
  siblings (occurrence.place.node :: occurrence.around) [] occurrence.place.node.namedChildren

theorem siblings_places (parent : Node) (around earlier nodes : List Node) :
    (siblings (parent :: around) earlier nodes).map (·.place) = Place.siblings parent earlier nodes := by
  induction nodes generalizing earlier with
  | nil => rfl
  | cons node rest ih => exact congrArg _ (ih (node :: earlier))

theorem children_places (occurrence : Occurrence) :
    occurrence.children.map (·.place) = occurrence.place.children :=
  siblings_places _ _ _ _

theorem of_mem_siblings {around earlier nodes : List Node} {occurrence : Occurrence}
    (member : occurrence ∈ siblings around earlier nodes) : occurrence.Proper ∧ occurrence.around = around := by
  induction nodes generalizing earlier with
  | nil => cases member
  | cons node rest ih =>
    rcases List.mem_cons.1 member with same | member
    · exact same ▸ ⟨rfl, rfl⟩
    · exact ih member

theorem siblings_spread {around earlier nodes : List Node} (named : ∀ node ∈ nodes, node.named = true) :
    (siblings around earlier nodes).flatMap spread = Node.occurrencesIn around earlier nodes := by
  induction nodes generalizing earlier with
  | nil => simp [siblings, Node.occurrencesIn]
  | cons node rest ih =>
    obtain ⟨here, later⟩ := List.forall_mem_cons.1 named
    rw [siblings, List.flatMap_cons, ih later, Node.occurrencesIn, if_pos here]
    rfl

theorem spread_eq {occurrence : Occurrence} (proper : occurrence.Proper) :
    occurrence.spread = occurrence :: occurrence.children.flatMap spread := by
  obtain ⟨⟨node, parent, earlier⟩, around⟩ := occurrence
  have same : parent = around.head? := proper
  subst same
  have named : ∀ child ∈ node.namedChildren, child.named = true := fun child member => (List.mem_filter.1 member).2
  rw [spread, Node.occurrences_eq, children, siblings_spread named, Node.occurrencesIn_eq_filter]
  rfl

def weight (stack : List Occurrence) : Nat :=
  (stack.map (·.place.node.size)).sum

theorem weight_siblings (around earlier nodes : List Node) : weight (siblings around earlier nodes) = Node.sizes nodes := by
  induction nodes generalizing earlier with
  | nil => simp [weight, siblings, Node.sizes]
  | cons node rest ih =>
    have later := ih (node :: earlier)
    simp only [weight, siblings, List.map_cons, List.sum_cons, Node.sizes] at later ⊢
    rw [later]

theorem weight_append (first second : List Occurrence) : weight (first ++ second) = weight first + weight second := by
  simp [weight]

theorem weight_children (occurrence : Occurrence) : weight occurrence.children < occurrence.place.node.size := by
  rw [children, weight_siblings, Node.size_eq]
  exact Nat.lt_succ_of_le (Node.sizes_filter_le _ _)

/-- No closed node is around the occurrence. -/
def reachable (opens : Node → Bool) (occurrence : Occurrence) : Bool :=
  occurrence.around.all opens

theorem spread_unreachable {opens : Node → Bool} {occurrence : Occurrence}
    (closed : opens occurrence.place.node = false) : (occurrence.children.flatMap spread).filter (reachable opens) = [] := by
  rw [List.filter_eq_nil_iff]
  intro inner member reached
  obtain ⟨child, childMember, member⟩ := List.mem_flatMap.1 member
  have suffix : occurrence.place.node :: occurrence.around <:+ inner.around :=
    (of_mem_siblings childMember).2 ▸ Node.around_of_mem_occurrences _ member
  have opened := List.all_eq_true.1 reached _ (suffix.subset List.mem_cons_self)
  rw [closed] at opened
  cases opened

end Occurrence

/-- Visiting a stack enters just what lies in no closed node. -/
theorem visit_eq (opens : Node → Bool) (fuel : Nat) (stack : List Occurrence)
    (enough : Occurrence.weight stack ≤ fuel) (proper : ∀ occurrence ∈ stack, occurrence.Proper)
    (reached : ∀ occurrence ∈ stack, occurrence.reachable opens = true) :
    Place.visit (fun place => opens place.node) fuel (stack.map (·.place)) =
      ((stack.flatMap Occurrence.spread).filter (·.reachable opens)).map (·.place) := by
  induction fuel generalizing stack with
  | zero =>
    cases stack with
    | nil => rfl
    | cons occurrence rest =>
      have positive := occurrence.place.node.size_pos
      simp only [Occurrence.weight, List.map_cons, List.sum_cons] at enough
      omega
  | succ fuel ih =>
    cases stack with
    | nil => rfl
    | cons occurrence rest =>
      obtain ⟨properHere, properRest⟩ := List.forall_mem_cons.1 proper
      obtain ⟨reachedHere, reachedRest⟩ := List.forall_mem_cons.1 reached
      have lighter := occurrence.weight_children
      have heavy : Occurrence.weight (occurrence :: rest) = occurrence.place.node.size + Occurrence.weight rest := rfl
      rw [List.map_cons, Place.visit, List.flatMap_cons, Occurrence.spread_eq properHere, List.cons_append,
        List.filter_cons_of_pos reachedHere, List.map_cons, List.filter_append]
      congr 1
      -- An open node puts its children on the stack; below a closed one nothing is reachable anyway.
      cases opened : opens occurrence.place.node with
      | true =>
        rw [if_pos rfl, ← occurrence.children_places, ← List.map_append, ih, List.flatMap_append, List.filter_append]
        · rw [Occurrence.weight_append]
          omega
        · intro inner member
          rcases List.mem_append.1 member with member | member
          · exact (Occurrence.of_mem_siblings member).1
          · exact properRest inner member
        · intro inner member
          rcases List.mem_append.1 member with member | member
          · rw [Occurrence.reachable, (Occurrence.of_mem_siblings member).2, List.all_cons, opened, Bool.true_and]
            exact reachedHere
          · exact reachedRest inner member
      | false =>
        rw [if_neg Bool.false_ne_true, Occurrence.spread_unreachable opened, List.nil_append, ih]
        · omega
        · exact properRest
        · exact reachedRest

/-- Every occurrence in a tree. -/
def Node.everywhere (tree : Node) : List Occurrence :=
  tree.occurrences [] []

theorem Place.reached_eq (opens : Node → Bool) (tree : Node) :
    Place.reached (fun place => opens place.node) tree =
      (tree.everywhere.filter (·.reachable opens)).map (·.place) := by
  have whole := visit_eq opens tree.size [⟨Place.root tree, []⟩] (by simp [Occurrence.weight, Place.root])
    (by simp [Occurrence.Proper, Place.root]) (by simp [Occurrence.reachable])
  rw [List.flatMap_singleton] at whole
  exact whole

theorem Place.all_eq (tree : Node) : Place.all tree = tree.everywhere.map (·.place) := by
  have whole := Place.reached_eq (fun _ => true) tree
  have entered : ∀ occurrence ∈ tree.everywhere, occurrence.reachable (fun _ => true) = true := by
    simp [Occurrence.reachable]
  rw [List.filter_eq_self.2 entered] at whole
  exact whole

end CallPolicy.Syntax
