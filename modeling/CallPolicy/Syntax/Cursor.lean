import CallPolicy.Syntax.Node

/-! Places in a source text, and the pieces of tree that have been read so far. -/

set_option autoImplicit false

namespace CallPolicy.Syntax

/-- How a line end counts at some place: it may end the statement, or it may not, and
then a lower indentation still ends the block unless a bracket is open. -/
inductive LineMode where
  | significant
  | header
  | bracketed
  deriving DecidableEq, Repr, Inhabited

/-- The delimiter of a string that is being read. -/
structure Quote where
  mark : Char
  triple : Bool
  raw : Bool
  bytes : Bool
  format : Bool
  deriving DecidableEq, Repr, Inhabited

/-- The furthest place at which reading got stuck, and the line of the innermost
statement around it. -/
structure Stuck where
  offset : Nat
  line : Nat
  deriving DecidableEq, Repr, Inhabited

/-- Of two places the further one; at one place the innermost statement. -/
def Stuck.join (first second : Stuck) : Stuck :=
  if first.offset < second.offset then second
  else if second.offset < first.offset then first
  else if first.line < second.line then second
  else first

/-- A place in a text, with what the layout rules need to know there. `statement` is the
line of the innermost statement begun. -/
structure Cursor where
  rest : List Char
  offset : Nat
  line : Nat
  lines : LineMode
  braces : Bool
  indents : List Nat
  quotes : List Quote
  statement : Nat
  stuck : Stuck
  deriving Repr, Inhabited

namespace Cursor

def start (text : List Char) : Cursor :=
  ⟨text, 0, 1, .significant, true, [0], [], 1, ⟨0, 1⟩⟩

/-- Step over characters, counting the lines that end. -/
def advance : Nat → Cursor → Cursor
  | 0, cursor => cursor
  | count + 1, cursor =>
    match cursor.rest with
    | [] => cursor
    | c :: rest =>
      advance count { cursor with
        rest := rest
        offset := cursor.offset + 1
        line := if c = '\n' then cursor.line + 1 else cursor.line }

/-- The indentation of the innermost open block. -/
def indent (cursor : Cursor) : Nat :=
  cursor.indents.headD 0

/-- The record of getting stuck, with one more place in it. -/
def stuckAt (cursor : Cursor) (offset : Nat) : Stuck :=
  cursor.stuck.join ⟨offset, cursor.statement⟩

end Cursor

/-- A finished piece of tree with the text from its first character on. -/
structure Piece where
  node : Node
  source : List Char
  start : Nat
  stop : Nat
  deriving Repr, Inhabited

namespace Piece

/-- Comments may stand between any two tokens and belong to no construct. -/
def isComment (piece : Piece) : Bool :=
  piece.node.kind == .comment

def withRole (role : Role) (piece : Piece) : Piece :=
  if piece.isComment then piece else { piece with node := { piece.node with role := some role } }

def leaf (kind : Kind) (named : Bool) (start stop : Cursor) : Piece :=
  let text := String.ofList (start.rest.take (stop.offset - start.offset))
  ⟨⟨kind, named, none, start.line, text, false, false, []⟩, start.rest, start.offset, stop.offset⟩

/-- Put pieces under a construct. The comments before its first token stay in front of
it, and a construct without tokens is empty. -/
def enclose (kind : Kind) (cursor : Cursor) (pieces : List Piece) : List Piece :=
  let before := pieces.takeWhile isComment
  match pieces.dropWhile isComment with
  | [] =>
    before ++ [⟨⟨kind, true, none, cursor.line, "", false, false, []⟩, cursor.rest, cursor.offset, cursor.offset⟩]
  | first :: more =>
    let stop := ((first :: more).getLastD first).stop
    -- The text runs from the first token to the last, whatever stands between its pieces.
    let text := String.ofList (first.source.take (stop - first.start))
    let broken := (first :: more).any (·.node.broken)
    let children := (first :: more).map (·.node)
    before ++ [⟨⟨kind, true, none, first.node.line, text, false, broken, children⟩,
      first.source, first.start, stop⟩]

end Piece

end CallPolicy.Syntax
