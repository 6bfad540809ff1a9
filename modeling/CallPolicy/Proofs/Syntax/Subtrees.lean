import CallPolicy.Proofs.Syntax.Walk
import Mathlib.Algebra.Order.BigOperators.Group.List
import Mathlib.Algebra.Order.Ring.Nat

/-! Subtrees in source order.

All that lies in an occurrence is one block of the order, and begins with the occurrence. The nodes around an
occurrence are those of the occurrences that it lies in.
-/

set_option autoImplicit false

namespace CallPolicy.Syntax

/-- Where joined blocks are divided at an item, one block is divided there. -/
theorem flatMap_eq_append_cons {α β : Type} {block : α → List β} {items : List α} {earlier later : List β} {found : β}
    (divided : items.flatMap block = earlier ++ found :: later) :
    ∃ before item after front rest, items = before ++ item :: after ∧ block item = front ++ found :: rest ∧
      earlier = before.flatMap block ++ front := by
  induction items generalizing earlier with
  | nil => simp at divided
  | cons first others ih =>
    -- Further blocks are divided as the rest of the items is.
    have further (skipped : List β) (start : earlier = block first ++ skipped)
        (divided : others.flatMap block = skipped ++ found :: later) :
        ∃ before item after front rest, first :: others = before ++ item :: after ∧
          block item = front ++ found :: rest ∧ earlier = before.flatMap block ++ front := by
      obtain ⟨before, item, after, front, rest, rfl, here, rfl⟩ := ih divided
      exact ⟨first :: before, item, after, front, rest, rfl, here, by simp [start]⟩
    rw [List.flatMap_cons, List.append_eq_append_iff] at divided
    rcases divided with ⟨skipped, start, divided⟩ | ⟨rest, here, start⟩
    · exact further skipped start divided
    · cases rest with
      | nil => exact further [] (by simpa using here.symm) start.symm
      | cons other rest =>
        obtain ⟨rfl, -⟩ := List.cons.inj start
        exact ⟨[], first, others, earlier, rest, rfl, here, rfl⟩

namespace Occurrence

variable {root outer inner : Occurrence}

/-- What lies in an occurrence, without itself. -/
def below (occurrence : Occurrence) : List Occurrence :=
  occurrence.children.flatMap spread

theorem siblings_nodes (around earlier nodes : List Node) :
    (siblings around earlier nodes).map (·.place.node) = nodes := by
  induction nodes generalizing earlier with
  | nil => rfl
  | cons node rest ih => exact congrArg _ (ih (node :: earlier))

theorem children_nodes (occurrence : Occurrence) :
    occurrence.children.map (·.place.node) = occurrence.place.node.namedChildren :=
  siblings_nodes _ _ _

/-- What an occurrence tells its children. -/
structure Child (outer inner : Occurrence) : Prop where
  node : inner.place.node ∈ outer.place.node.namedChildren
  around : inner.around = outer.place.node :: outer.around
  parent : inner.place.parent = some outer.place.node

theorem child_of_mem (member : inner ∈ outer.children) : Child outer inner := by
  obtain ⟨proper, around⟩ := of_mem_siblings member
  refine ⟨?_, around, ?_⟩
  · rw [← children_nodes]
    exact List.mem_map_of_mem member
  · rw [Proper, around] at proper
    exact proper

theorem Child.proper (child : Child outer inner) : inner.Proper := by
  rw [Proper, child.parent, child.around]
  rfl

theorem size_lt_of_mem_children (member : inner ∈ outer.children) : inner.place.node.size < outer.place.node.size := by
  have light : inner.place.node.size ≤ weight outer.children := List.le_sum_of_mem (List.mem_map_of_mem member)
  exact Nat.lt_of_le_of_lt light outer.weight_children

/-- Induction from the leaves to the root. -/
theorem from_children {motive : Occurrence → Prop}
    (step : ∀ occurrence, (∀ child ∈ occurrence.children, motive child) → motive occurrence) (occurrence : Occurrence) :
    motive occurrence :=
  step occurrence fun child _ => from_children step child
termination_by occurrence.place.node.size
decreasing_by exact size_lt_of_mem_children ‹_›

theorem spread_eq_cons (proper : root.Proper) : root.spread = root :: root.below :=
  spread_eq proper

theorem self_mem_spread (proper : root.Proper) : root ∈ root.spread := by
  rw [spread_eq_cons proper]
  exact List.mem_cons_self

/-- What lies in an occurrence is the occurrence, or lies in a child of it. -/
theorem mem_spread_iff (proper : root.Proper) :
    inner ∈ root.spread ↔ inner = root ∨ ∃ child ∈ root.children, inner ∈ child.spread := by
  rw [spread_eq_cons proper, List.mem_cons, below, List.mem_flatMap]

theorem below_subset_spread (proper : root.Proper) : root.below ⊆ root.spread := by
  rw [spread_eq_cons proper]
  exact List.subset_cons_self _ _

theorem child_spread_subset (proper : outer.Proper) (child : inner ∈ outer.children) : inner.spread ⊆ outer.spread := by
  intro found member
  exact (mem_spread_iff proper).2 (.inr ⟨inner, child, member⟩)

theorem around_of_mem_below (member : inner ∈ outer.below) : outer.place.node :: outer.around <:+ inner.around := by
  obtain ⟨child, childMember, member⟩ := List.mem_flatMap.1 member
  exact (child_of_mem childMember).around ▸ Node.around_of_mem_occurrences _ member

/-- The nodes around an occurrence, and its own. -/
def lineage (occurrence : Occurrence) : List Node :=
  occurrence.place.node :: occurrence.around

theorem node_mem_lineage (proper : outer.Proper) (member : inner ∈ outer.spread) :
    outer.place.node ∈ inner.lineage := by
  rw [spread_eq_cons proper] at member
  rcases List.mem_cons.1 member with same | member
  · exact same ▸ List.mem_cons_self
  · exact List.mem_cons_of_mem _ ((around_of_mem_below member).subset List.mem_cons_self)

theorem node_mem_preorder (member : inner ∈ outer.spread) : inner.place.node ∈ outer.place.node.preorder := by
  rw [← Node.occurrences_nodes outer.around outer.place.earlier]
  exact List.mem_map_of_mem member

theorem proper_of_mem_spread (proper : root.Proper) (member : inner ∈ root.spread) : inner.Proper := by
  induction root using from_children with
  | step root ih =>
    rcases (mem_spread_iff proper).1 member with rfl | ⟨child, childMember, member⟩
    · exact proper
    · exact ih child childMember (child_of_mem childMember).proper member

/-- What lies in something that lies in an occurrence lies in the occurrence. -/
theorem spread_subset_spread (proper : root.Proper) (member : outer ∈ root.spread) : outer.spread ⊆ root.spread := by
  induction root using from_children with
  | step root ih =>
    rcases (mem_spread_iff proper).1 member with rfl | ⟨child, childMember, member⟩
    · exact List.Subset.refl _
    · have inChild := ih child childMember (child_of_mem childMember).proper member
      exact List.Subset.trans inChild (child_spread_subset proper childMember)

/-- What lies in an occurrence is the occurrence, or a child of something in it. -/
theorem parent_of_mem_spread (proper : root.Proper) (member : inner ∈ root.spread) :
    inner = root ∨ ∃ outer ∈ root.spread, inner ∈ outer.children := by
  induction root using from_children with
  | step root ih =>
    rcases (mem_spread_iff proper).1 member with same | ⟨child, childMember, member⟩
    · exact .inl same
    · rcases ih child childMember (child_of_mem childMember).proper member with rfl | ⟨outer, outerMember, isChild⟩
      · exact .inr ⟨root, self_mem_spread proper, childMember⟩
      · exact .inr ⟨outer, child_spread_subset proper childMember outerMember, isChild⟩

/-- A node around an occurrence is that of something it lies in, unless it is around the root. -/
theorem ancestor_of_mem_around (proper : root.Proper) (member : inner ∈ root.spread) {node : Node}
    (isAround : node ∈ inner.around) :
    node ∈ root.around ∨ ∃ outer ∈ root.spread, outer.place.node = node ∧ inner ∈ outer.below := by
  induction root using from_children with
  | step root ih =>
    rcases (mem_spread_iff proper).1 member with rfl | ⟨child, childMember, inChild⟩
    · exact .inl isAround
    · have known := child_of_mem childMember
      rcases ih child childMember known.proper inChild with outside | ⟨outer, outerMember, found⟩
      · -- Around the child there is one node more, that of the root.
        rw [known.around] at outside
        rcases List.mem_cons.1 outside with rfl | outside
        · exact .inr ⟨root, self_mem_spread proper, rfl, List.mem_flatMap.2 ⟨child, childMember, inChild⟩⟩
        · exact .inl outside
      · exact .inr ⟨outer, child_spread_subset proper childMember outerMember, found⟩

/-- An occurrence at a place of the order other than the first lies in its parent there, and both are blocks of the
order. -/
theorem blocks_of_spread (proper : root.Proper) {earlier later : List Occurrence}
    (divided : root.spread = earlier ++ inner :: later) :
    (earlier = [] ∧ inner = root) ∨
      ∃ outer before front rest after, inner ∈ outer.children ∧ outer ∈ root.spread ∧
        root.spread = before ++ outer.spread ++ after ∧ outer.spread = front ++ inner.spread ++ rest ∧
        earlier = before ++ front := by
  induction root using from_children generalizing earlier later with
  | step root ih =>
    have whole := spread_eq_cons proper
    rw [whole] at divided
    cases earlier with
    | nil => exact .inl ⟨rfl, (List.cons.inj divided).1.symm⟩
    | cons first earlier =>
      obtain ⟨rfl, inBelow⟩ := List.cons.inj divided
      obtain ⟨firsts, child, lasts, front, rest, children, here, rfl⟩ := flatMap_eq_append_cons inBelow
      have childMember : child ∈ root.children := by simp [children]
      have below : root.below = firsts.flatMap spread ++ child.spread ++ lasts.flatMap spread := by
        rw [Occurrence.below, children]
        simp
      rcases ih child childMember (child_of_mem childMember).proper here with ⟨rfl, rfl⟩ |
        ⟨outer, before, front, rest, after, member, outerMember, inChild, inOuter, rfl⟩
      · refine .inr ⟨root, [], root :: firsts.flatMap spread, lasts.flatMap spread, [], childMember,
          self_mem_spread proper, by simp, ?_, by simp⟩
        rw [whole, below]
        rfl
      · refine .inr ⟨outer, root :: firsts.flatMap spread ++ before, front, rest, after ++ lasts.flatMap spread, member,
          child_spread_subset proper childMember outerMember, ?_, inOuter, by simp⟩
        rw [whole, below, inChild]
        simp

end Occurrence

/-! ### Whole trees -/

/-- The occurrence of a tree as a whole. -/
def Occurrence.whole (tree : Node) : Occurrence :=
  ⟨Place.root tree, []⟩

theorem Occurrence.proper_whole (tree : Node) : (whole tree).Proper :=
  rfl

namespace Node

variable {tree : Node} {occurrence : Occurrence}

theorem proper_of_mem_everywhere (member : occurrence ∈ tree.everywhere) : occurrence.Proper :=
  Occurrence.proper_of_mem_spread (Occurrence.proper_whole tree) member

theorem everywhere_nodes (tree : Node) : tree.everywhere.map (·.place.node) = tree.preorder :=
  occurrences_nodes [] [] tree

theorem node_mem_preorder (member : occurrence ∈ tree.everywhere) : occurrence.place.node ∈ tree.preorder := by
  rw [← everywhere_nodes]
  exact List.mem_map_of_mem member

theorem spread_subset_everywhere (member : occurrence ∈ tree.everywhere) : occurrence.spread ⊆ tree.everywhere :=
  Occurrence.spread_subset_spread (Occurrence.proper_whole tree) member

theorem children_subset_everywhere (member : occurrence ∈ tree.everywhere) :
    occurrence.children ⊆ tree.everywhere := by
  intro child isChild
  have inChild := Occurrence.self_mem_spread (Occurrence.child_of_mem isChild).proper
  apply spread_subset_everywhere member
  exact Occurrence.child_spread_subset (proper_of_mem_everywhere member) isChild inChild

theorem outer_of_mem_around {node : Node} (member : occurrence ∈ tree.everywhere) (isAround : node ∈ occurrence.around) :
    ∃ outer ∈ tree.everywhere, outer.place.node = node ∧ occurrence ∈ outer.below := by
  rcases Occurrence.ancestor_of_mem_around (Occurrence.proper_whole tree) member isAround with outside | found
  · cases outside
  · exact found

theorem outer_of_mem_lineage {node : Node} (member : occurrence ∈ tree.everywhere)
    (isLineage : node ∈ occurrence.lineage) :
    ∃ outer ∈ tree.everywhere, outer.place.node = node ∧ occurrence ∈ outer.spread := by
  rcases List.mem_cons.1 isLineage with rfl | isAround
  · exact ⟨occurrence, member, rfl, Occurrence.self_mem_spread (proper_of_mem_everywhere member)⟩
  · obtain ⟨outer, outerMember, same, below⟩ := outer_of_mem_around member isAround
    exact ⟨outer, outerMember, same, Occurrence.below_subset_spread (proper_of_mem_everywhere outerMember) below⟩

end Node

end CallPolicy.Syntax
