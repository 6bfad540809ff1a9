import CallPolicy.CallGraph.Extraction
import CallPolicy.Proofs.Syntax.PythonReading
import CallPolicy.Proofs.Syntax.RustReading

/-! The first flaw of a tree.

The search for flaws looks only below nodes that are marked as broken. Where exactly the nodes with a flaw at
or below them are marked, nothing that it passes over has a flaw, so it finds the one that comes first of all.
-/

set_option autoImplicit false

namespace CallPolicy.Syntax

namespace Node

mutual

/-- All nodes of a tree in source order, named or not. -/
def nodes : Node → List Node
  | ⟨kind, named, role, line, text, missing, broken, children⟩ =>
    ⟨kind, named, role, line, text, missing, broken, children⟩ :: nodesIn children

def nodesIn : List Node → List Node
  | [] => []
  | node :: rest => node.nodes ++ nodesIn rest

end

theorem nodesIn_eq_flatMap (children : List Node) : nodesIn children = children.flatMap nodes := by
  induction children with
  | nil => rw [nodesIn, List.flatMap_nil]
  | cons node rest ih => rw [nodesIn, ih, List.flatMap_cons]

theorem nodes_eq (node : Node) : node.nodes = node :: node.children.flatMap nodes := by
  cases node
  rw [nodes, nodesIn_eq_flatMap]

theorem self_mem_nodes (node : Node) : node ∈ node.nodes := by
  rw [nodes_eq]
  exact List.mem_cons_self

theorem child_mem_nodes {node child : Node} (member : child ∈ node.children) : child ∈ node.nodes := by
  rw [nodes_eq]
  exact List.mem_cons_of_mem _ (List.mem_flatMap.2 ⟨child, member, child.self_mem_nodes⟩)

mutual

theorem nodes_subset_nodes {inner : Node} : (node : Node) → inner ∈ node.nodes → inner.nodes ⊆ node.nodes
  | ⟨kind, named, role, line, text, missing, broken, children⟩, member => by
    rw [nodes] at member
    rcases List.mem_cons.1 member with rfl | member
    · exact List.Subset.refl _
    · rw [nodes]
      exact List.subset_cons_of_subset _ (nodes_subset_nodesIn children member)

theorem nodes_subset_nodesIn {inner : Node} : (nodes : List Node) → inner ∈ nodesIn nodes → inner.nodes ⊆ nodesIn nodes
  | [], member => by
    rw [nodesIn] at member
    cases member
  | node :: rest, member => by
    rw [nodesIn] at member ⊢
    rcases List.mem_append.1 member with member | member
    · exact List.subset_append_of_subset_left _ (nodes_subset_nodes node member)
    · exact List.subset_append_of_subset_right _ (nodes_subset_nodesIn rest member)

end

/-- The flaw of a tree that comes first in source order. -/
def firstFlaw? (node : Node) : Option Node :=
  node.nodes.find? isFlaw

theorem firstFlaw?_eq_none_iff {node : Node} :
    node.firstFlaw? = none ↔ ∀ inner ∈ node.nodes, inner.isFlaw = false := by
  simp [firstFlaw?]

/-- Exactly the nodes with a flaw at or below them are marked as broken. -/
def Marked (node : Node) : Prop :=
  ∀ inner ∈ node.nodes, inner.broken = true ↔ ∃ flaw ∈ inner.nodes, flaw.isFlaw = true

namespace Marked

variable {node : Node}

theorem child (marked : node.Marked) {child : Node} (member : child ∈ node.children) : child.Marked :=
  fun inner found => marked inner (nodes_subset_nodes node (child_mem_nodes member) found)

theorem firstFlaw?_isSome (marked : node.Marked) : node.firstFlaw?.isSome = node.broken := by
  rw [Bool.eq_iff_iff, firstFlaw?, List.find?_isSome, marked node node.self_mem_nodes]

/-- Nothing is flawed below a node that is not marked. -/
theorem firstFlaw?_eq_none (marked : node.Marked) (sound : node.broken = false) : node.firstFlaw? = none := by
  rw [← Option.isNone_iff_eq_none, ← Option.not_isSome, marked.firstFlaw?_isSome, sound]
  rfl

end Marked

/-- Passing over the nodes that are not marked passes over no flaw. -/
theorem find?_flaw_pruned {siblings : List Node} (marked : ∀ node ∈ siblings, node.Marked) :
    ((siblings.filter (·.broken)).flatMap nodes).find? isFlaw = (siblings.flatMap nodes).find? isFlaw := by
  induction siblings with
  | nil => rfl
  | cons node rest ih =>
    obtain ⟨here, later⟩ := List.forall_mem_cons.1 marked
    rw [List.flatMap_cons, List.find?_append, ← ih later]
    cases broken : node.broken with
    | true => rw [List.filter_cons_of_pos broken, List.flatMap_cons, List.find?_append]
    | false =>
      have nothing : node.nodes.find? isFlaw = none := here.firstFlaw?_eq_none broken
      rw [List.filter_cons_of_neg (by simp [broken]), nothing, Option.none_or]

theorem sizes_append (earlier later : List Node) : sizes (earlier ++ later) = sizes earlier + sizes later := by
  induction earlier with
  | nil => rw [List.nil_append, sizes, Nat.zero_add]
  | cons node rest ih => rw [List.cons_append, sizes, sizes, ih, Nat.add_assoc]

/-- With fuel for all nodes on the stack and below, the search ends at the flaw that comes first there. -/
theorem flawLine?_eq {fuel : Nat} {stack : List Node} (enough : sizes stack ≤ fuel) (marked : ∀ node ∈ stack, node.Marked) :
    flawLine? fuel stack = ((stack.flatMap nodes).find? isFlaw).map (·.line) := by
  induction fuel generalizing stack with
  | zero =>
    cases stack with
    | nil => rfl
    | cons node rest =>
      rw [sizes] at enough
      exact absurd node.size_pos (by omega)
  | succ fuel ih =>
    cases stack with
    | nil => rfl
    | cons node rest =>
      obtain ⟨here, later⟩ := List.forall_mem_cons.1 marked
      rw [flawLine?, List.flatMap_cons, nodes_eq, List.cons_append]
      cases flaw : node.isFlaw with
      | true => rw [if_pos rfl, List.find?_cons_of_pos flaw, Option.map_some]
      | false =>
        -- The marked children go on the stack; the others stay away with all that is below them.
        have below : ∀ child ∈ node.children, child.Marked := fun child member => here.child member
        have fits : sizes (node.children.filter (·.broken) ++ rest) ≤ fuel := by
          have kept := sizes_filter_le (·.broken) node.children
          rw [sizes, size_eq] at enough
          rw [sizes_append]
          omega
        have allMarked : ∀ next ∈ node.children.filter (·.broken) ++ rest, next.Marked :=
          List.forall_mem_append.2 ⟨fun child member => below child (List.mem_of_mem_filter member), later⟩
        rw [if_neg Bool.false_ne_true, ih fits allMarked, List.find?_cons_of_neg (by simp [flaw]), List.flatMap_append,
          List.find?_append, List.find?_append, find?_flaw_pruned below]

theorem Marked.flawLine?_eq {root : Node} (marked : root.Marked) {fuel : Nat} (enough : root.size ≤ fuel) :
    flawLine? fuel [root] = root.firstFlaw?.map (·.line) := by
  have whole : sizes [root] ≤ fuel := by rwa [sizes, sizes]
  rw [Node.flawLine?_eq whole (List.forall_mem_singleton.2 marked), List.flatMap_singleton, firstFlaw?]

/-- The line that the search answers with is that of the flaw; it never has to answer with the root's. -/
theorem Marked.firstErrorLine_eq {root : Node} (marked : root.Marked) :
    root.firstErrorLine = root.firstFlaw?.map (·.line) := by
  rw [firstErrorLine, marked.flawLine?_eq le_rfl, ← marked.firstFlaw?_isSome]
  cases root.firstFlaw? with
  | none => rfl
  | some flaw => rfl

end Node

/-! ### What a grammar reads -/

/-- Nothing in the tree is a flaw or is marked as broken. -/
def Node.Sound (node : Node) : Prop :=
  ∀ inner ∈ node.nodes, inner.isFlaw = false ∧ inner.broken = false

namespace Node

theorem sound_iff {node : Node} :
    node.Sound ↔ (node.isFlaw = false ∧ node.broken = false) ∧ ∀ child ∈ node.children, child.Sound := by
  rw [Sound, nodes_eq, List.forall_mem_cons, List.forall_mem_flatMap]
  rfl

theorem Sound.marked {node : Node} (sound : node.Sound) : node.Marked := by
  intro inner member
  rw [(sound inner member).2]
  refine ⟨fun broken => absurd broken Bool.false_ne_true, ?_⟩
  rintro ⟨flaw, below, isFlaw⟩
  rw [(sound flaw (nodes_subset_nodes node member below)).1] at isFlaw
  cases isFlaw

/-- A lone error is marked, and so is what holds it. -/
theorem marked_of_error {root error : Node} (isError : error.isFlaw = true) (leaf : error.children = [])
    (errorBroken : error.broken = true) (only : root.children = [error]) (rootBroken : root.broken = true) :
    root.Marked := by
  have inError : error.nodes = [error] := by rw [nodes_eq, leaf, List.flatMap_nil]
  have inRoot : root.nodes = [root, error] := by rw [nodes_eq, only, List.flatMap_singleton, inError]
  rw [Marked, inRoot, List.forall_mem_cons, List.forall_mem_singleton]
  refine ⟨iff_of_true rootBroken ⟨error, ?_, isError⟩, iff_of_true errorBroken ⟨error, error.self_mem_nodes, isError⟩⟩
  exact child_mem_nodes (only ▸ List.mem_singleton_self error)

end Node

namespace Piece

theorem sound_leaf {kind : Kind} (noError : kind ≠ .error) (named : Bool) (start stop : Cursor) :
    (leaf kind named start stop).node.Sound :=
  Node.sound_iff.2 ⟨⟨by simp [leaf, Node.isFlaw, noError], rfl⟩, List.forall_mem_nil _⟩

theorem IsRemark.sound {piece : Piece} (remark : piece.IsRemark) : piece.node.Sound := by
  obtain ⟨start, stop, rfl⟩ := remark
  exact sound_leaf (by decide) true start stop

theorem sound_withRole {piece : Piece} (sound : piece.node.Sound) (role : Role) : (piece.withRole role).node.Sound := by
  unfold Piece.withRole
  split
  · exact sound
  · obtain ⟨here, below⟩ := Node.sound_iff.1 sound
    exact Node.sound_iff.2 ⟨here, below⟩

theorem sound_enclose {kind : Kind} (noError : kind ≠ .error) (cursor : Cursor) {pieces : List Piece}
    (sound : ∀ piece ∈ pieces, piece.node.Sound) : ∀ piece ∈ enclose kind cursor pieces, piece.node.Sound := by
  have inside : ∀ piece ∈ pieces.dropWhile isComment, piece.node.Sound :=
    fun piece member => sound piece (List.dropWhile_subset _ member)
  have outside : ∀ piece ∈ pieces.takeWhile isComment, piece.node.Sound :=
    fun piece member => sound piece (List.takeWhile_subset _ member)
  unfold enclose
  cases parts : pieces.dropWhile isComment with
  | nil =>
    refine List.forall_mem_append.2 ⟨outside, List.forall_mem_singleton.2 (Node.sound_iff.2 ⟨⟨?_, rfl⟩, ?_⟩)⟩
    · simp [Node.isFlaw, noError]
    · exact List.forall_mem_nil _
  | cons first more =>
    rw [parts] at inside
    have unmarked : (first :: more).any (·.node.broken) = false :=
      List.any_eq_false.2 fun piece member => by simp [(Node.sound_iff.1 (inside piece member)).1.2]
    refine List.forall_mem_append.2 ⟨outside, List.forall_mem_singleton.2 (Node.sound_iff.2 ⟨⟨?_, unmarked⟩, ?_⟩)⟩
    · simp [Node.isFlaw, noError]
    · exact List.forall_mem_map.2 inside

end Piece

variable {N L : Type}

/-- A look for rules that would make an error out of what they read. -/
def Check.noError : Check N L where
  forms := fun _ => true
  plain := (· != .error)
  encloses := fun _ _ => false

/-- Errors come from what cannot be read only. -/
structure Grammar.ReadsNoError (grammar : Grammar N L) : Prop where
  remarks : grammar.RemarksOnly
  rules : ∀ name, (grammar.rule name).passes .noError = true

namespace Grammar

variable {grammar : Grammar N L} {rule : Rule N L} {left pieces : List Piece} {cursor stop : Cursor}

theorem Reads.sound (reads : grammar.Reads rule left cursor pieces stop) (noError : grammar.ReadsNoError)
    (passes : rule.passes .noError = true) (leftSound : ∀ piece ∈ left, piece.node.Sound) :
    ∀ piece ∈ pieces, piece.node.Sound := by
  have nothing : ∀ piece ∈ ([] : List Piece), piece.node.Sound := List.forall_mem_nil _
  induction reads with
  | empty | manyNone | not | ahead | after => exact nothing
  | linksDone => exact leftSound
  | token read =>
    obtain ⟨comments, start, areComments, rfl⟩ := noError.remarks.token read
    rw [List.forall_mem_append, List.forall_mem_singleton]
    exact ⟨fun piece member => (areComments piece member).sound, Piece.sound_leaf (bne_iff_ne.1 passes) _ _ _⟩
  | hidden found => exact fun piece member => (noError.remarks.lex found piece member).sound
  | seq _ _ first second =>
    obtain ⟨here, there⟩ := Bool.and_eq_true_iff.1 passes
    exact List.forall_mem_append.2 ⟨first here leftSound, second there leftSound⟩
  | altFirst _ ih => exact ih (Bool.and_eq_true_iff.1 passes).1 leftSound
  | altSecond _ ih => exact ih (Bool.and_eq_true_iff.1 passes).2 leftSound
  | manyOnce _ ih => exact ih passes nothing
  | manyMore _ _ once more => exact List.forall_mem_append.2 ⟨once passes nothing, more passes nothing⟩
  | node _ ih =>
    obtain ⟨kept, inner⟩ := Bool.and_eq_true_iff.1 passes
    rw [Check.noError, Bool.or_false] at kept
    exact Piece.sound_enclose (bne_iff_ne.1 kept) _ (ih inner nothing)
  | grow _ ih =>
    obtain ⟨kept, inner⟩ := Bool.and_eq_true_iff.1 passes
    exact Piece.sound_enclose (bne_iff_ne.1 kept) _ (List.forall_mem_append.2 ⟨leftSound, ih inner nothing⟩)
  | growFrom _ ih =>
    obtain ⟨kept, inner⟩ := Bool.and_eq_true_iff.1 passes
    refine Piece.sound_enclose (bne_iff_ne.1 kept) _ (List.forall_mem_append.2 ⟨?_, ih inner nothing⟩)
    exact List.forall_mem_map.2 fun piece member => Piece.sound_withRole (leftSound piece member) _
  | role _ ih => exact List.forall_mem_map.2 fun piece member => Piece.sound_withRole (ih passes leftSound piece member) _
  | ref _ ih => exact ih (noError.rules _) leftSound
  | extend _ _ head link =>
    obtain ⟨here, there⟩ := Bool.and_eq_true_iff.1 passes
    exact link there (head here leftSound)
  | linksMore _ _ link rest => exact rest passes (link passes leftSound)
  | only _ ih => exact ih passes nothing
  | append _ ih => exact List.forall_mem_append.2 ⟨leftSound, ih passes nothing⟩
  | under _ ih => exact ih passes leftSound
  | statement _ ih => exact ih passes leftSound

/-- The tree of a text is marked as it should be: a text that is read leaves no flaw, and the only other tree
is an error under a marked root. -/
theorem ReadsNoError.parse (noError : grammar.ReadsNoError) {root : Kind} {top : Rule N L} (isTree : root ≠ .error)
    (passes : top.passes .noError = true) (text : List Char) : (grammar.parse root top text).Marked := by
  rcases grammar.parse_cases root top text with ⟨pieces, stop, reads, same⟩ | ⟨line, same⟩ <;> rw [same]
  · have sound := reads.sound noError passes (List.forall_mem_nil _)
    refine Node.Sound.marked (Node.sound_iff.2 ⟨⟨?_, rfl⟩, List.forall_mem_map.2 sound⟩)
    simp [Node.isFlaw, isTree]
  · exact Node.marked_of_error rfl rfl rfl rfl rfl

end Grammar

namespace Python

theorem readsNoError : grammar.ReadsNoError where
  remarks := lexing_remarksOnly
  rules := by
    intro form
    cases form <;> decide +kernel

theorem parse_marked (text : List Char) : (parse text).Marked :=
  readsNoError.parse (by decide) (by decide) text

end Python

namespace Rust

theorem readsNoError : grammar.ReadsNoError where
  remarks := lexing_remarksOnly
  rules := by
    intro form
    cases form <;> decide +kernel

theorem parse_marked (text : List Char) : (parse text).Marked :=
  readsNoError.parse (by decide) (by decide) text

end Rust

end CallPolicy.Syntax

namespace CallPolicy

open Syntax

theorem parse_marked (unit : SourceUnit) : (parse unit).Marked := by
  obtain ⟨language, text⟩ := unit
  cases language
  · exact Python.parse_marked _
  · exact Rust.parse_marked _

/-- A unit is refused for its first flaw. -/
theorem checkedTree_eq (unit : SourceUnit) :
    checkedTree unit = (match (parse unit).firstFlaw? with
      | some flaw => .error (.syntaxError unit.language flaw.line)
      | none => .ok (parse unit)) := by
  rw [checkedTree, (parse_marked unit).firstErrorLine_eq]
  cases (parse unit).firstFlaw? <;> rfl

/-- In every tree in which exactly the nodes with a flaw at or below them are marked, the pruned search answers
with the line of the flaw that comes first among all nodes, and does not answer exactly if there is none. A
marked tree has a flaw that the search comes to, so the line of the root never stands in for it. The trees of
source units are like that, and a unit is refused for its first flaw. -/
theorem firstErrorLine_of_first_flaw :
    (∀ root : Node, root.Marked →
      root.firstErrorLine = (root.nodes.find? Node.isFlaw).map (·.line) ∧
      (root.firstErrorLine = none ↔ ∀ node ∈ root.nodes, node.isFlaw = false) ∧
      ∀ fuel, root.size ≤ fuel → root.broken = true →
        ∃ flaw, root.nodes.find? Node.isFlaw = some flaw ∧ Node.flawLine? fuel [root] = some flaw.line) ∧
    ∀ unit : SourceUnit, (parse unit).Marked ∧
      checkedTree unit = (match (parse unit).nodes.find? Node.isFlaw with
        | some flaw => .error (.syntaxError unit.language flaw.line)
        | none => .ok (parse unit)) := by
  refine ⟨fun root marked => ⟨marked.firstErrorLine_eq, ?_, fun fuel enough broken => ?_⟩, fun unit => ?_⟩
  · rw [marked.firstErrorLine_eq, Option.map_eq_none_iff, Node.firstFlaw?_eq_none_iff]
  · rw [← marked.firstFlaw?_isSome, Option.isSome_iff_exists] at broken
    obtain ⟨flaw, first⟩ := broken
    refine ⟨flaw, first, ?_⟩
    rw [marked.flawLine?_eq enough, first, Option.map_some]
  · exact ⟨parse_marked unit, checkedTree_eq unit⟩

/-- A block without flaws, one that lacks its last token, and an error around another one. -/
def scatteredFlaws : Node :=
  let word (line : Nat) : Node := ⟨.identifier, true, none, line, "a", false, false, []⟩
  let lacking : Node := ⟨.punctuation, false, none, 4, "", true, true, []⟩
  let inner : Node := ⟨.error, true, none, 6, "?", false, true, []⟩
  ⟨.construct "module", true, none, 1, "", false, true,
    [⟨.construct "block", true, none, 1, "", false, false, [word 1]⟩,
      ⟨.construct "block", true, none, 2, "", false, true, [word 2, word 3, lacking]⟩,
      ⟨.error, true, none, 5, "", false, true, [word 5, inner]⟩]⟩

theorem firstErrorLine_of_scattered :
    scatteredFlaws.Marked ∧ scatteredFlaws.firstErrorLine = some 4 ∧ Node.flawLine? 20 [scatteredFlaws] = some 4 := by
  have marked : scatteredFlaws.Marked := by
    unfold Node.Marked
    decide +kernel
  obtain ⟨found, _, searched⟩ := firstErrorLine_of_first_flaw.1 scatteredFlaws marked
  have first : (scatteredFlaws.nodes.find? Node.isFlaw).map (·.line) = some 4 := by decide +kernel
  refine ⟨marked, found.trans first, ?_⟩
  obtain ⟨flaw, isFirst, ends⟩ := searched 20 (by decide +kernel) rfl
  rw [ends]
  rwa [isFirst] at first

end CallPolicy
