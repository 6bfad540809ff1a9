/-! Concrete syntax trees of source text, in one shape for both languages.

A tree keeps every token. Its named nodes are the constructs and the comments;
keywords and punctuation are unnamed leaves. A backslash that continues a line of Python
counts as a comment, for it may stand between any two tokens as well.
-/

set_option autoImplicit false

namespace CallPolicy.Syntax

/-- What a node stands for. The analyses tell apart the kinds with a constructor of
their own; every other construct goes by its name. -/
inductive Kind where
  | identifier
  | typeIdentifier
  | selfPath
  | cratePath
  | superPath
  | member
  | call
  | subscript
  | functionDefinition
  | classDefinition
  | decoratedDefinition
  | decorator
  | importStatement
  | importFrom
  | importFuture
  | aliasedImport
  | functionItem
  | structItem
  | enumItem
  | attributeItem
  | attribute
  | callExpression
  | macroInvocation
  | useDeclaration
  | useAs
  | useScopedList
  | useList
  | useWildcard
  | externCrate
  | scopedIdentifier
  | fieldExpression
  | genericFunction
  | genericType
  | indexExpression
  | comment
  | error
  | punctuation
  | construct (name : String)
  deriving DecidableEq, Repr, Inhabited

/-- The part a child plays in its parent, where an analysis asks for it. -/
inductive Role where
  | name
  | object
  | callee
  | value
  | attribute
  | moduleName
  | argument
  | path
  | list
  | base
  | macroName
  deriving DecidableEq, Repr, Inhabited

/-- A node with the line it begins on, counted from one, and the text it spans.
`missing` marks a token that the reader had to invent, and `broken` a subtree in which
something went wrong. -/
structure Node where
  kind : Kind
  named : Bool
  role : Option Role
  line : Nat
  text : String
  missing : Bool
  broken : Bool
  children : List Node
  deriving Repr, Inhabited

namespace Node

def namedChildren (node : Node) : List Node :=
  node.children.filter (·.named)

/-- The first child that plays a part. -/
def child? (node : Node) (role : Role) : Option Node :=
  node.children.find? (·.role == some role)

def childrenIn (node : Node) (role : Role) : List Node :=
  node.children.filter (·.role == some role)

mutual

/-- The number of nodes of a tree. -/
def size : Node → Nat
  | ⟨_, _, _, _, _, _, _, children⟩ => sizes children + 1

def sizes : List Node → Nat
  | [] => 0
  | node :: rest => node.size + sizes rest

end

theorem size_eq (node : Node) : node.size = sizes node.children + 1 := by
  cases node
  rw [size]

theorem size_pos (node : Node) : 0 < node.size := by
  rw [size_eq]
  exact Nat.succ_pos _

end Node

end CallPolicy.Syntax
