import CallPolicy.Proofs.Syntax.Reading

/-! Trees in source order.

Nodes that follow each other take up lines one after another, and the children of a node lie in its
lines, none of them before the node. The lines of a walk then never fall. What a grammar reads has this
order, for what a rule finds on its left is used in front of what it reads.
-/

set_option autoImplicit false

namespace CallPolicy.Syntax

/-! ### Lines of trees -/

namespace Node

/-- The nodes take up lines from the first number to the second, one node after the other, and each
begins before its children. -/
inductive Placed : Nat → List Node → Nat → Prop where
  | nil {low high : Nat} : low ≤ high → Placed low [] high
  | cons {low middle high : Nat} {node : Node} {rest : List Node} : low ≤ node.line →
    Placed node.line node.children middle → Placed middle rest high → Placed low (node :: rest) high

variable {low lower middle high higher : Nat} {nodes others : List Node}

theorem Placed.le (placed : Placed low nodes high) : low ≤ high := by
  induction placed with
  | nil ordered => exact ordered
  | cons starts _ _ inside after => exact Nat.le_trans starts (Nat.le_trans inside after)

theorem Placed.from_lower (placed : Placed low nodes high) (below : lower ≤ low) : Placed lower nodes high := by
  cases placed with
  | nil ordered => exact .nil (Nat.le_trans below ordered)
  | cons starts inside after => exact .cons (Nat.le_trans below starts) inside after

theorem Placed.to_higher (placed : Placed low nodes high) (above : high ≤ higher) : Placed low nodes higher := by
  induction placed with
  | nil ordered => exact .nil (Nat.le_trans ordered above)
  | cons starts inside _ _ after => exact .cons starts inside (after above)

theorem placed_append_iff :
    Placed low (nodes ++ others) high ↔ ∃ middle, Placed low nodes middle ∧ Placed middle others high := by
  constructor
  · intro placed
    induction nodes generalizing low with
    | nil => exact ⟨low, .nil (Nat.le_refl low), placed⟩
    | cons node rest ih =>
      cases placed with
      | cons starts inside after =>
        obtain ⟨middle, first, second⟩ := ih after
        exact ⟨middle, .cons starts inside first, second⟩
  · rintro ⟨middle, first, second⟩
    induction first with
    | nil ordered => exact second.from_lower ordered
    | cons starts inside _ _ after => exact .cons starts inside (after second)

theorem Placed.append (first : Placed low nodes middle) (second : Placed middle others high) :
    Placed low (nodes ++ others) high :=
  placed_append_iff.2 ⟨middle, first, second⟩

theorem preorder_eq_cons (node : Node) : node.preorder = node :: preorders node.children := by
  cases node
  rw [preorder]

theorem Placed.lines_within (placed : Placed low nodes high) :
    ∀ node ∈ preorders nodes, low ≤ node.line ∧ node.line ≤ high := by
  induction placed with
  | nil _ =>
    rw [preorders]
    exact List.forall_mem_nil _
  | @cons low middle high node rest starts inside after insideLines afterLines =>
    have reaches : middle ≤ high := after.le
    have later : ∀ other ∈ preorders rest, low ≤ other.line ∧ other.line ≤ high := by
      intro other member
      have := inside.le
      have := afterLines other member
      omega
    rw [preorders]
    split
    · rw [preorder_eq_cons, List.cons_append, List.forall_mem_cons, List.forall_mem_append]
      refine ⟨⟨starts, Nat.le_trans inside.le reaches⟩, ?_, later⟩
      intro other member
      have := insideLines other member
      omega
    · exact later

/-- In source order the lines of a walk never fall. -/
theorem Placed.lines_sorted (placed : Placed low nodes high) :
    (preorders nodes).Pairwise fun earlier later => earlier.line ≤ later.line := by
  induction placed with
  | nil _ =>
    rw [preorders]
    exact List.Pairwise.nil
  | @cons low middle high node rest starts inside after insideSorted afterSorted =>
    rw [preorders]
    split
    · rw [preorder_eq_cons, List.cons_append, List.pairwise_cons, List.pairwise_append]
      refine ⟨?_, insideSorted, afterSorted, ?_⟩
      · intro other member
        rcases List.mem_append.1 member with member | member
        · exact (inside.lines_within other member).1
        · exact Nat.le_trans inside.le (after.lines_within other member).1
      · intro earlier earlierMember later laterMember
        exact Nat.le_trans (inside.lines_within earlier earlierMember).2 (after.lines_within later laterMember).1
    · exact afterSorted

theorem Placed.preorder_lines {tree : Node} (placed : Placed low [tree] high) :
    ∀ node ∈ tree.preorder, low ≤ node.line := by
  cases placed with
  | cons starts inside _ =>
    rw [preorder_eq_cons, List.forall_mem_cons]
    exact ⟨starts, fun node member => Nat.le_trans starts (inside.lines_within node member).1⟩

theorem Placed.preorder_sorted {tree : Node} (placed : Placed low [tree] high) :
    tree.preorder.Pairwise fun earlier later => earlier.line ≤ later.line := by
  cases placed with
  | cons starts inside _ =>
    rw [preorder_eq_cons, List.pairwise_cons]
    exact ⟨fun node member => (inside.lines_within node member).1, inside.lines_sorted⟩

end Node

/-! ### Lines of what is read -/

theorem Cursor.line_le_advance (count : Nat) (cursor : Cursor) : cursor.line ≤ (cursor.advance count).line := by
  induction count generalizing cursor with
  | zero => exact Nat.le_refl _
  | succ count ih =>
    rw [advance]
    split
    · exact Nat.le_refl _
    · refine Nat.le_trans ?_ (ih _)
      dsimp only
      split
      · exact Nat.le_succ _
      · exact Nat.le_refl _

namespace Piece

def Placed (low : Nat) (pieces : List Piece) (high : Nat) : Prop :=
  Node.Placed low (pieces.map (·.node)) high

variable {low middle high : Nat} {pieces others : List Piece}

theorem placed_nil (ordered : low ≤ high) : Placed low [] high :=
  .nil ordered

theorem Placed.append (first : Placed low pieces middle) (second : Placed middle others high) :
    Placed low (pieces ++ others) high := by
  rw [Placed, List.map_append]
  exact Node.Placed.append first second

theorem Placed.withRole (role : Role) (placed : Placed low pieces high) :
    Placed low (pieces.map (Piece.withRole role)) high := by
  have line (piece : Piece) : (piece.withRole role).node.line = piece.node.line := by
    unfold Piece.withRole
    split <;> rfl
  have children (piece : Piece) : (piece.withRole role).node.children = piece.node.children := by
    unfold Piece.withRole
    split <;> rfl
  induction pieces generalizing low with
  | nil => exact placed
  | cons piece rest ih =>
    cases placed with
    | cons starts inside after =>
      refine .cons ?_ ?_ (ih after)
      · rwa [line]
      · rwa [line, children]

theorem placed_leaf {kind : Kind} {named : Bool} {start stop : Cursor} (after : low ≤ start.line)
    (forward : start.line ≤ high) : Placed low [leaf kind named start stop] high :=
  .cons after (.nil (Nat.le_refl _)) (.nil forward)

/-- A construct begins where the first of its parts does. -/
theorem Placed.enclose {kind : Kind} {stop : Cursor} (placed : Placed low pieces stop.line) :
    Placed low (Piece.enclose kind stop pieces) stop.line := by
  have divided : Placed low (pieces.takeWhile isComment ++ pieces.dropWhile isComment) stop.line := by
    rwa [List.takeWhile_append_dropWhile]
  rw [Placed, List.map_append] at divided
  obtain ⟨middle, before, inside⟩ := Node.placed_append_iff.1 divided
  unfold Piece.enclose
  split
  · next empty =>
    refine Placed.append before (.cons ?_ (.nil (Nat.le_refl _)) (.nil (Nat.le_refl _)))
    exact inside.le
  · next first more begins =>
    rw [begins] at inside
    refine Placed.append before ?_
    cases inside with
    | cons starts below after =>
      exact .cons starts (.cons (Nat.le_refl _) below after) (.nil (Nat.le_refl _))

end Piece

variable {N L : Type}

/-- Tokens and the comments before them come one after another. -/
structure Lexing.Forward (lexing : Lexing L) : Prop where
  gap : ∀ {cursor pieces start}, lexing.gap cursor = some (pieces, start) →
    Piece.Placed cursor.line pieces start.line
  lex : ∀ {lexeme cursor pieces start stop}, lexing.lex lexeme cursor = some (pieces, start, stop) →
    Piece.Placed cursor.line pieces start.line ∧ start.line ≤ stop.line

theorem Lexing.Forward.token {lexing : Lexing L} (forward : lexing.Forward) {kind : Option Kind}
    {terminal : Terminal L} {cursor stop : Cursor} {pieces : List Piece}
    (read : lexing.token kind terminal cursor = .read pieces stop) : Piece.Placed cursor.line pieces stop.line := by
  obtain ⟨comments, start, rfl, ⟨lexeme, found⟩ | ⟨begun, length, rfl⟩⟩ := Lexing.token_read read
  · obtain ⟨before, ahead⟩ := forward.lex found
    exact before.append (Piece.placed_leaf (Nat.le_refl _) ahead)
  · have before : Piece.Placed cursor.line comments start.line := by
      rcases begun with found | ⟨rfl, rfl⟩
      · exact forward.gap found
      · exact Piece.placed_nil (Nat.le_refl _)
    exact before.append (Piece.placed_leaf (Nat.le_refl _) (Cursor.line_le_advance _ _))

namespace Rule

/-- The rule reads nothing at all. -/
def still : Rule N L → Bool
  | .empty | .fail | .not _ | .ahead _ | .after _ => true
  | .seq first second => first.still && second.still
  | _ => false

/-- The rule puts what it finds on its left in front of what it reads. -/
def takesLeft : Rule N L → Bool
  | .seq first second | .alt first second => first.takesLeft || second.takesLeft
  | .role _ rule | .under _ rule | .statement rule => rule.takesLeft
  | .extend head _ => head.takesLeft
  | .links _ | .grow _ _ _ | .append _ => true
  | _ => false

/-- Nothing is read between what the rule finds on its left and what it puts after it. -/
def ordered : Rule N L → Bool
  | .seq first second => first.ordered && second.ordered && (!second.takesLeft || first.still)
  | .alt first second | .extend first second => first.ordered && second.ordered
  | .many rule | .node _ rule | .role _ rule | .links rule | .grow _ _ rule | .only _ rule | .append rule
  | .under _ rule | .statement rule => rule.ordered
  | _ => true

end Rule

/-- The tokens and the rules of the grammar go forward. -/
structure Grammar.Orders (grammar : Grammar N L) : Prop where
  forward : grammar.Forward
  forms : ∀ name, (grammar.rule name).ordered = true ∧ (grammar.rule name).takesLeft = false

/-- What a rule reads follows what is on its left, and begins at the place where it is read if the rule leaves
alone what is there. -/
structure Rule.InOrder (rule : Rule N L) (left : List Piece) (line : Nat) (pieces : List Piece) (last : Nat) : Prop where
  behind : ∀ {low}, Piece.Placed low left line → Piece.Placed low pieces last
  apart : rule.takesLeft = false → Piece.Placed line pieces last

namespace Rule.InOrder

variable {rule : Rule N L} {left pieces : List Piece} {line last : Nat}

theorem of_placed (placed : Piece.Placed line pieces last) : rule.InOrder left line pieces last where
  behind before := placed.from_lower before.le
  apart _ := placed

theorem of_takesLeft (taken : rule.takesLeft = true)
    (behind : ∀ {low}, Piece.Placed low left line → Piece.Placed low pieces last) : rule.InOrder left line pieces last where
  behind := behind
  apart leaves := by
    rw [taken] at leaves
    cases leaves

/-- With nothing on its left, every rule begins at the place where it is read. -/
theorem placed (inOrder : rule.InOrder [] line pieces last) : Piece.Placed line pieces last :=
  inOrder.behind (Piece.placed_nil (Nat.le_refl line))

end Rule.InOrder

namespace Grammar

variable {grammar : Grammar N L} {rule : Rule N L} {left pieces : List Piece} {cursor stop : Cursor}

theorem Reads.still (reads : grammar.Reads rule left cursor pieces stop) (still : rule.still = true) :
    pieces = [] ∧ stop.line = cursor.line := by
  induction reads with
  | empty | not | ahead | after => exact ⟨rfl, rfl⟩
  | seq _ _ first second =>
    obtain ⟨here, there⟩ := Bool.and_eq_true_iff.1 still
    obtain ⟨rfl, sameLine⟩ := first here
    obtain ⟨rfl, lastLine⟩ := second there
    exact ⟨rfl, lastLine.trans sameLine⟩
  | _ => cases still

/-- What is read comes one after the other. -/
theorem Orders.inOrder (orders : grammar.Orders) (reads : grammar.Reads rule left cursor pieces stop)
    (ordered : rule.ordered = true) : rule.InOrder left cursor.line pieces stop.line := by
  have nothing (line : Nat) : Piece.Placed line [] line := Piece.placed_nil (Nat.le_refl line)
  induction reads with
  | empty | manyNone | not | ahead | after => exact .of_placed (nothing _)
  | token read => exact .of_placed (orders.forward.token read)
  | hidden found =>
    obtain ⟨placed, ahead⟩ := orders.forward.lex found
    exact .of_placed (placed.to_higher ahead)
  | @seq first second left earlier later cursor middle stop here there ihFirst ihSecond =>
    obtain ⟨both, inFront⟩ := Bool.and_eq_true_iff.1 ordered
    obtain ⟨firstOrdered, secondOrdered⟩ := Bool.and_eq_true_iff.1 both
    have firstInOrder := ihFirst firstOrdered
    have secondInOrder := ihSecond secondOrdered
    cases taken : second.takesLeft with
    | true =>
      -- Nothing has been read when the second rule takes what is on the left.
      rw [taken, Bool.not_true, Bool.false_or] at inFront
      obtain ⟨rfl, sameLine⟩ := here.still inFront
      refine .of_takesLeft (by rw [Rule.takesLeft, taken, Bool.or_true]) fun before => ?_
      exact secondInOrder.behind (sameLine ▸ before)
    | false =>
      have after := secondInOrder.apart taken
      exact ⟨fun before => (firstInOrder.behind before).append after,
        fun leaves => (firstInOrder.apart (Bool.or_eq_false_iff.1 leaves).1).append after⟩
  | altFirst _ ih =>
    have inOrder := ih (Bool.and_eq_true_iff.1 ordered).1
    exact ⟨inOrder.behind, fun leaves => inOrder.apart (Bool.or_eq_false_iff.1 leaves).1⟩
  | altSecond _ ih =>
    have inOrder := ih (Bool.and_eq_true_iff.1 ordered).2
    exact ⟨inOrder.behind, fun leaves => inOrder.apart (Bool.or_eq_false_iff.1 leaves).2⟩
  | manyOnce _ ih => exact .of_placed (ih ordered).placed
  | manyMore _ _ once more => exact .of_placed ((once ordered).placed.append (more ordered).placed)
  | node _ ih => exact .of_placed (ih ordered).placed.enclose
  | role _ ih =>
    have inOrder := ih ordered
    exact ⟨fun before => (inOrder.behind before).withRole _, fun leaves => (inOrder.apart leaves).withRole _⟩
  | @ref name _ _ _ _ _ ih =>
    obtain ⟨formOrdered, leaves⟩ := orders.forms name
    exact .of_placed ((ih formOrdered).apart leaves)
  | extend _ _ head link =>
    obtain ⟨headOrdered, linkOrdered⟩ := Bool.and_eq_true_iff.1 ordered
    have links := link linkOrdered
    exact ⟨fun before => links.behind ((head headOrdered).behind before),
      fun leaves => links.behind ((head headOrdered).apart leaves)⟩
  | linksDone => exact .of_takesLeft rfl fun before => before
  | linksMore _ _ link rest =>
    exact .of_takesLeft rfl fun before => (rest ordered).behind ((link ordered).behind before)
  | grow _ ih => exact .of_takesLeft rfl fun before => (before.append (ih ordered).placed).enclose
  | growFrom _ ih => exact .of_takesLeft rfl fun before => ((before.withRole _).append (ih ordered).placed).enclose
  | only _ ih => exact .of_placed (ih ordered).placed
  | append _ ih => exact .of_takesLeft rfl fun before => before.append (ih ordered).placed
  | under _ ih =>
    have inOrder := ih ordered
    exact ⟨inOrder.behind, inOrder.apart⟩
  | statement _ ih =>
    have inOrder := ih ordered
    exact ⟨inOrder.behind, inOrder.apart⟩

/-- A tree without errors is in source order, from the first line on. -/
theorem Orders.parse (orders : grammar.Orders) {root : Kind} {top : Rule N L} (ordered : top.ordered = true)
    {text : List Char} (unbroken : (grammar.parse root top text).broken = false) :
    ∃ last, Node.Placed 1 [grammar.parse root top text] last := by
  rcases grammar.parse_cases root top text with ⟨pieces, stop, reads, same⟩ | ⟨line, same⟩
  · rw [same]
    exact ⟨stop.line, .cons (Nat.le_refl 1) (orders.inOrder reads ordered).placed (.nil (Nat.le_refl _))⟩
  · rw [same] at unbroken
    cases unbroken

end Grammar

end CallPolicy.Syntax
