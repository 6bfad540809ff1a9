import CallPolicy.CallGraph.Basic
import CallPolicy.Syntax.Walk

/-! Which constructs of a language define functions and classes, call, and import.

Both languages resolve a callee to the identifier at the bottom of its chain of bases.
Rust has no classes; its structs and enums stand for them.
-/

set_option autoImplicit false

namespace CallPolicy

open Syntax

/-- One step from a callee expression toward its base. -/
inductive BaseStep where
  | named (text : String)
  | down (node : Node)
  | unresolved

def BaseStep.ofChild : Option Node → BaseStep
  | some node => .down node
  | none => .unresolved

/-- The name recorded for callees that do not resolve. -/
def unresolvedCallee : String := "<expression>"

/-- Follow a chain of bases to its end. -/
def followBase (step : Node → BaseStep) : Nat → Node → String
  | 0, _ => unresolvedCallee
  | fuel + 1, node =>
    match step node with
    | .named text => text
    | .down next => followBase step fuel next
    | .unresolved => unresolvedCallee

/-- What the analyses ask of a language. The extent of a function is the subtree that
belongs to it. -/
structure Constructs where
  functionName : Node → Option String
  className : Node → Option String
  classMarkers : Place → List String
  callTarget : Node → Option String
  imports : Node → List String
  extent : Place → Node

def nameOf (node : Node) : Option String :=
  (node.child? .name).map (·.text)

namespace Python

def baseStep (node : Node) : BaseStep :=
  match node.kind with
  | .identifier => .named node.text
  | .member => .ofChild (node.child? .object)
  | .call => .ofChild (node.child? .callee)
  | .subscript => .ofChild (node.child? .value)
  | _ => .unresolved

def baseName (node : Node) : String :=
  followBase baseStep node.size node

/-- The last dotted segment of a decorator expression; of a call, that of its callee. -/
def decoratorName : Nat → Node → Option String
  | 0, _ => none
  | fuel + 1, node =>
    match node.kind with
    | .identifier => some node.text
    | .member => (node.child? .attribute).map (·.text)
    | .call => (node.child? .callee).bind (decoratorName fuel)
    | _ => none

def markersOf (decorated : Node) : List String :=
  (decorated.namedChildren.filter (·.kind == .decorator)).filterMap fun decorator =>
    decorator.namedChildren.head?.bind fun expression => decoratorName expression.size expression

def decorated? (place : Place) : Option Node :=
  place.parent.filter (·.kind == .decoratedDefinition)

def imports (node : Node) : List String :=
  match node.kind with
  | .importStatement =>
    (node.childrenIn .name).filterMap fun name =>
      if name.kind == .aliasedImport then nameOf name else some name.text
  | .importFrom => ((node.child? .moduleName).map (·.text)).toList
  | .importFuture => ["__future__"]
  | _ => []

def constructs : Constructs where
  functionName node := if node.kind == .functionDefinition then nameOf node else none
  className node := if node.kind == .classDefinition then nameOf node else none
  classMarkers place := ((decorated? place).map markersOf).getD []
  callTarget node := if node.kind == .call then (node.child? .callee).map baseName else none
  imports := imports
  extent place := (decorated? place).getD place.node

end Python

namespace Rust

def baseStep (node : Node) : BaseStep :=
  match node.kind with
  | .identifier | .typeIdentifier | .selfPath | .cratePath | .superPath => .named node.text
  | .scopedIdentifier => .ofChild ((node.child? .path).or (node.child? .name))
  | .fieldExpression => .ofChild (node.child? .value)
  | .genericFunction | .callExpression => .ofChild (node.child? .callee)
  | .genericType => .ofChild (node.child? .base)
  | .indexExpression => .ofChild node.namedChildren.head?
  | _ => .unresolved

def baseName (node : Node) : String :=
  followBase baseStep node.size node

def lastSegment (path : Node) : String :=
  if path.kind == .scopedIdentifier then (nameOf path).getD path.text else path.text

/-- The path of the attribute in an attribute item, unless a comment stands before it. -/
def attributePath? (item : Node) : Option Node :=
  match item.namedChildren.head? with
  | some first => if first.kind == .attribute then first.namedChildren.head? else none
  | none => none

/-- The markers that attributes just before an item give it; comments do not matter. The
siblings come nearest first, and so do the markers. -/
def markersBefore : List Node → List String
  | [] => []
  | sibling :: earlier =>
    match sibling.kind with
    | .attributeItem => ((attributePath? sibling).map lastSegment).toList ++ markersBefore earlier
    | .comment => markersBefore earlier
    | _ => []

/-- The module paths of a use tree, as written up to a group, a wildcard or an alias. -/
def usePaths : Nat → Node → List String
  | 0, _ => []
  | fuel + 1, node =>
    match node.kind with
    | .useAs => ((node.child? .path).map (·.text)).toList
    -- The path before a group stands for all that the group names.
    | .useScopedList =>
      match node.child? .path with
      | some path => [path.text]
      | none => ((node.child? .list).map (usePaths fuel)).getD []
    | .useList => node.namedChildren.flatMap (usePaths fuel)
    | .useWildcard =>
      match node.namedChildren.head? with
      | some path => [path.text]
      | none => ["*"]
    | _ => [node.text]

def imports (node : Node) : List String :=
  match node.kind with
  | .useDeclaration => ((node.child? .argument).map fun tree => usePaths tree.size tree).getD []
  | .externCrate => (nameOf node).toList
  | _ => []

def callTarget (node : Node) : Option String :=
  match node.kind with
  | .callExpression => (node.child? .callee).map baseName
  | .macroInvocation => (node.child? .macroName).map fun path => lastSegment path ++ "!"
  | _ => none

def constructs : Constructs where
  functionName node := if node.kind == .functionItem then nameOf node else none
  className node := if node.kind == .structItem || node.kind == .enumItem then nameOf node else none
  classMarkers place := (markersBefore place.earlier).reverse
  callTarget := callTarget
  imports := imports
  extent place := place.node

end Rust

def Language.constructs : Language → Constructs
  | .python => Python.constructs
  | .rust => Rust.constructs

end CallPolicy
