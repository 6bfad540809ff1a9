import CallPolicy.Syntax.Node

/-! Walks over trees in source order.

A walk keeps a stack of places still to visit and pushes the children of a visited node in
front. `Node.preorder` is the same order by recursion on the tree.
-/

set_option autoImplicit false

namespace CallPolicy.Syntax

/-- A node in its surroundings: its parent and the named siblings before it, the nearest
one first. -/
structure Place where
  node : Node
  parent : Option Node
  earlier : List Node
  deriving Repr, Inhabited

namespace Place

def root (node : Node) : Place :=
  ⟨node, none, []⟩

def siblings (parent : Node) : List Node → List Node → List Place
  | _, [] => []
  | earlier, node :: rest => ⟨node, some parent, earlier⟩ :: siblings parent (node :: earlier) rest

/-- The named children with their surroundings. -/
def children (place : Place) : List Place :=
  siblings place.node [] place.node.namedChildren

/-- Visit the places on a stack and, below those that allow it, their children. -/
def visit (opens : Place → Bool) : Nat → List Place → List Place
  | 0, _ => []
  | _, [] => []
  | fuel + 1, place :: stack =>
    place :: visit opens fuel (if opens place then place.children ++ stack else stack)

/-- All places of a tree in source order. -/
def all (node : Node) : List Place :=
  visit (fun _ => true) node.size [root node]

/-- The places of a tree in source order that lie below no closed place. -/
def reached (opens : Place → Bool) (node : Node) : List Place :=
  visit opens node.size [root node]

end Place

namespace Node

mutual

/-- The named nodes of a tree in source order. -/
def preorder : Node → List Node
  | ⟨kind, named, role, line, text, missing, broken, children⟩ =>
    ⟨kind, named, role, line, text, missing, broken, children⟩ :: preorders children

def preorders : List Node → List Node
  | [] => []
  | node :: rest => if node.named then node.preorder ++ preorders rest else preorders rest

end

def isFlaw (node : Node) : Bool :=
  node.kind == .error || node.missing

/-- The line of the first flaw among the nodes on a stack and below, looking only below
nodes that are marked as broken. -/
def flawLine? : Nat → List Node → Option Nat
  | 0, _ => none
  | _, [] => none
  | fuel + 1, node :: stack =>
    if node.isFlaw then some node.line
    else flawLine? fuel (node.children.filter (·.broken) ++ stack)

/-- The line of the first flaw of a tree, if it is marked as broken. -/
def firstErrorLine (root : Node) : Option Nat :=
  if root.broken then some ((flawLine? root.size [root]).getD root.line) else none

end Node

end CallPolicy.Syntax
