import CallPolicy.Syntax.Cursor

/-! Grammars as data, and one reader for all of them.

A rule says what may follow at a place. Alternatives are ordered: the first that fits is
taken. The reader is total: every step costs one unit of fuel, and the fuel it is started
with grows with the text.
-/

set_option autoImplicit false

namespace CallPolicy.Syntax

/-- A token. A `sign` must not be followed by a character that would make it a longer
one; `adjoined` allows nothing between it and the token before. A `name` is any word but
the excepted ones, and a `lexeme` is a token with rules of its own. -/
inductive Terminal (L : Type) where
  | sign (text : List Char) (notBefore : List Char)
  | adjoined (text : List Char)
  | word (text : List Char)
  | name (except : List (List Char))
  | lexeme (lexeme : L)
  deriving Repr, Inhabited

/-- What a rule changes for the tokens under it. -/
inductive Setting where
  | lines (mode : LineMode)
  | braces (allowed : Bool)
  deriving Repr, Inhabited

/-- Rules over constructs `N` and lexemes `L`. `chain head links` grows a construct to the
right: each link encloses what has been read so far. `only` takes a construct of the
kinds alone, `after` stands where the last one to its left is of the kinds, and `append`
adds to what is on its left. -/
inductive Rule (N L : Type) where
  | empty
  | fail
  | token (kind : Option Kind) (terminal : Terminal L)
  | hidden (lexeme : L)
  | seq (first second : Rule N L)
  | alt (first second : Rule N L)
  | many (rule : Rule N L)
  | node (kind : Kind) (rule : Rule N L)
  | role (role : Role) (rule : Rule N L)
  | ref (name : N)
  | not (rule : Rule N L)
  | ahead (rule : Rule N L)
  | extend (head link : Rule N L)
  | links (link : Rule N L)
  | grow (kind : Kind) (role : Option Role) (rule : Rule N L)
  | only (kinds : List Kind) (rule : Rule N L)
  | after (kinds : List Kind)
  | append (rule : Rule N L)
  | under (setting : Setting) (rule : Rule N L)
  | statement (rule : Rule N L)
  deriving Repr, Inhabited

/-- How a language is cut into tokens. `gap` passes the blanks and comments before an
ordinary token, unless the layout puts a token of its own first. `lex` reads a lexeme:
the comments before it, its start and its end. `inName` says which characters may begin
and which may continue a word. -/
structure Lexing (L : Type) where
  gap : Cursor → Option (List Piece × Cursor)
  lex : L → Cursor → Option (List Piece × Cursor × Cursor)
  wordLength : List Char → Nat
  continuesWord : Char → Bool

/-- `lineAtEnd` is the line on which the text lacks a statement if it ends at a place. -/
structure Grammar (N L : Type) extends Lexing L where
  rule : N → Rule N L
  lineAtEnd : Cursor → Nat

/-- What became of a rule at a place. -/
inductive Reading where
  | refused (stuck : Stuck)
  | read (pieces : List Piece) (cursor : Cursor)

namespace Lexing

variable {L : Type}

/-- The length of the ordinary token at the front of a text, if it is this one. -/
def matchLength (lexing : Lexing L) (text : List Char) : Terminal L → Option Nat
  | .sign sign notBefore =>
    if sign.isPrefixOf text then
      match text.drop sign.length with
      | [] => some sign.length
      | c :: _ => if notBefore.contains c then none else some sign.length
    else none
  | .adjoined sign => if sign.isPrefixOf text then some sign.length else none
  | .word word =>
    if word.isPrefixOf text then
      match text.drop word.length with
      | [] => some word.length
      | c :: _ => if lexing.continuesWord c then none else some word.length
    else none
  | .name except =>
    let length := lexing.wordLength text
    if length = 0 || except.contains (text.take length) then none else some length
  | .lexeme _ => none

/-- Read one token as a leaf. -/
def token (lexing : Lexing L) (kind : Option Kind) (terminal : Terminal L) (cursor : Cursor) : Reading :=
  let leaf (start stop : Cursor) : Piece :=
    match kind with
    | some kind => Piece.leaf kind true start stop
    | none => Piece.leaf .punctuation false start stop
  let located : Option (List Piece × Cursor) :=
    match terminal with
    | .adjoined _ => some ([], cursor)
    | _ => lexing.gap cursor
  match terminal with
  | .lexeme lexeme =>
    match lexing.lex lexeme cursor with
    | none => .refused (cursor.stuckAt cursor.offset)
    | some (comments, start, stop) => .read (comments ++ [leaf start stop]) stop
  | _ =>
    match located with
    | none => .refused (cursor.stuckAt cursor.offset)
    | some (comments, start) =>
      match lexing.matchLength start.rest terminal with
      | none => .refused (cursor.stuckAt start.offset)
      | some length =>
        let stop := start.advance length
        .read (comments ++ [leaf start stop]) stop

end Lexing

namespace Grammar

variable {N L : Type}

/-- Read by a rule. `left` is what a link of a chain finds to its left. -/
def run (grammar : Grammar N L) : Nat → Rule N L → List Piece → Cursor → Reading
  | 0, _, _, cursor => .refused cursor.stuck
  | fuel + 1, rule, left, cursor =>
    match rule with
    | .empty => .read [] cursor
    | .fail => .refused cursor.stuck
    | .token kind terminal => grammar.token kind terminal cursor
    | .hidden lexeme =>
      match grammar.lex lexeme cursor with
      | none => .refused (cursor.stuckAt cursor.offset)
      | some (comments, _, stop) => .read comments stop
    | .seq first second =>
      match run grammar fuel first left cursor with
      | .refused stuck => .refused stuck
      | .read pieces middle =>
        match run grammar fuel second left middle with
        | .refused stuck => .refused stuck
        | .read more stop => .read (pieces ++ more) stop
    | .alt first second =>
      match run grammar fuel first left cursor with
      -- The first alternative may have come further than the second will.
      | .refused stuck => run grammar fuel second left { cursor with stuck := stuck }
      | .read pieces stop => .read pieces stop
    | .many rule =>
      match run grammar fuel rule [] cursor with
      | .refused stuck => .read [] { cursor with stuck := stuck }
      | .read pieces middle =>
        -- A rule that reads nothing would be repeated without end.
        if middle.offset ≤ cursor.offset then .read pieces middle
        else
          match run grammar fuel (.many rule) [] middle with
          | .refused stuck => .refused stuck
          | .read more stop => .read (pieces ++ more) stop
    | .node kind rule =>
      match run grammar fuel rule [] cursor with
      | .refused stuck => .refused stuck
      | .read pieces stop => .read (Piece.enclose kind stop pieces) stop
    | .role role rule =>
      match run grammar fuel rule left cursor with
      | .refused stuck => .refused stuck
      | .read pieces stop => .read (pieces.map (Piece.withRole role)) stop
    | .ref name => run grammar fuel (grammar.rule name) left cursor
    | .not rule =>
      match run grammar fuel rule [] cursor with
      | .refused _ => .read [] cursor
      | .read _ _ => .refused cursor.stuck
    | .ahead rule =>
      match run grammar fuel rule [] cursor with
      | .refused stuck => .refused stuck
      | .read _ _ => .read [] cursor
    | .extend head link =>
      match run grammar fuel head left cursor with
      | .refused stuck => .refused stuck
      | .read pieces middle => run grammar fuel link pieces middle
    | .links link =>
      match run grammar fuel link left cursor with
      | .refused stuck => .read left { cursor with stuck := stuck }
      | .read pieces middle => run grammar fuel (.links link) pieces middle
    | .grow kind role rule =>
      match run grammar fuel rule [] cursor with
      | .refused stuck => .refused stuck
      | .read pieces stop =>
        let base :=
          match role with
          | some role => left.map (Piece.withRole role)
          | none => left
        .read (Piece.enclose kind stop (base ++ pieces)) stop
    | .only kinds rule =>
      match run grammar fuel rule [] cursor with
      | .refused stuck => .refused stuck
      | .read pieces stop =>
        match pieces.filter (! ·.isComment) with
        | [piece] =>
          if kinds.contains piece.node.kind then .read pieces stop
          else .refused (stop.stuckAt stop.offset)
        | _ => .refused stop.stuck
    | .after kinds =>
      match (left.filter (! ·.isComment)).getLast? with
      | some piece => if kinds.contains piece.node.kind then .read [] cursor else .refused cursor.stuck
      | none => .refused cursor.stuck
    | .append rule =>
      match run grammar fuel rule [] cursor with
      | .refused stuck => .refused stuck
      | .read pieces stop => .read (left ++ pieces) stop
    | .under setting rule =>
      let inner :=
        match setting with
        | .lines mode => { cursor with lines := mode }
        | .braces allowed => { cursor with braces := allowed }
      match run grammar fuel rule left inner with
      | .refused stuck => .refused stuck
      | .read pieces stop => .read pieces { stop with lines := cursor.lines, braces := cursor.braces }
    | .statement rule =>
      let line :=
        match grammar.gap cursor with
        -- Comments before a statement may end lines; its own line is that of its first token.
        | some (_, start) => if start.rest.isEmpty then grammar.lineAtEnd cursor else start.line
        | none => cursor.statement
      match run grammar fuel rule left { cursor with statement := line } with
      | .refused stuck => .refused stuck
      | .read pieces stop => .read pieces { stop with statement := cursor.statement }

/-- Fuel for a text. A rule that finds none left is refused. -/
def fuelFor (text : List Char) : Nat :=
  4000 * (text.length + 1)

/-- The tree of a text. Where the text does not follow the grammar, the tree holds an
error node on the line of the innermost statement that could not be read. -/
def parse (grammar : Grammar N L) (root : Kind) (top : Rule N L) (text : List Char) : Node :=
  let whole := String.ofList text
  match grammar.run (fuelFor text) top [] (Cursor.start text) with
  | .read pieces _ => ⟨root, true, none, 1, whole, false, false, pieces.map (·.node)⟩
  | .refused stuck =>
    ⟨root, true, none, 1, whole, false, true,
      [⟨.error, true, none, stuck.line, whole, false, true, []⟩]⟩

end Grammar

namespace Rule

variable {N L : Type}

/-- One rule after the other. -/
def all : List (Rule N L) → Rule N L
  | [] => .empty
  | [rule] => rule
  | rule :: rest => .seq rule (all rest)

/-- The first rule that fits. -/
def any : List (Rule N L) → Rule N L
  | [] => .fail
  | [rule] => rule
  | rule :: rest => .alt rule (any rest)

def opt (rule : Rule N L) : Rule N L :=
  .alt rule .empty

def many1 (rule : Rule N L) : Rule N L :=
  .seq rule (.many rule)

def chain (head link : Rule N L) : Rule N L :=
  .extend head (.links link)

/-- What is read so far stays as it is. -/
def keep : Rule N L :=
  .links .fail

end Rule

end CallPolicy.Syntax
