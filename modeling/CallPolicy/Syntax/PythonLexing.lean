import CallPolicy.Syntax.Grammar
import CallPolicy.Syntax.Word

/-! Tokens of Python: layout by indentation, strings with their delimiters, numbers.

Line ends, indents and dedents are tokens without width. A line end counts only where
the statement may stop; elsewhere it is a blank.
-/

set_option autoImplicit false

namespace CallPolicy.Syntax.Python

inductive Lexeme where
  | integer
  | float
  | openString
  | stringChunk
  | closeString
  | formatText
  | conversion
  | newline
  | lineEnd
  | indent
  | dedent
  | endOfText
  deriving DecidableEq, Repr, Inhabited

/-- A comment between two tokens, with all that has been passed when it ends. -/
structure Remark where
  passed : List Piece
  indent : Nat
  sameLine : Bool
  stop : Cursor

/-- What lies between two tokens: what is passed there, the comments in it, whether a line ended, and the
indentation of the line that follows. The end of the text ends a line. -/
structure Gap where
  passed : List Piece
  remarks : List Remark
  crossed : Bool
  indent : Nat
  cursor : Cursor

namespace Gap

def step (gap : Gap) (count : Nat) : Gap :=
  { gap with cursor := gap.cursor.advance count }

def cross (gap : Gap) : Gap :=
  { gap with crossed := true, indent := 0 }

/-- What began at a place is passed. -/
def pass (gap : Gap) (start : Cursor) : Gap :=
  { gap with passed := gap.passed ++ [Piece.leaf .comment true start gap.cursor] }

/-- The comment that began at a place is passed. -/
def remark (gap : Gap) (start : Cursor) : Gap :=
  let gap := gap.pass start
  { gap with remarks := gap.remarks ++ [⟨gap.passed, gap.indent, !gap.crossed, gap.cursor⟩] }

/-- Pass blanks, comments and continued line ends; `inside` is the start of the comment that is open. -/
def scan : List Char → Option Cursor → Gap → Gap
  | [], none, gap => gap.cross
  | [], some start, gap => (gap.remark start).cross
  | c :: rest, some start, gap =>
    if c = '\n' then scan rest none ((gap.remark start).cross.step 1)
    else scan rest (some start) (gap.step 1)
  | '\\' :: '\n' :: rest, none, gap => scan rest none ((gap.step 2).pass gap.cursor)
  | '\\' :: '\r' :: '\n' :: rest, none, gap => scan rest none ((gap.step 3).pass gap.cursor)
  | ['\\'], none, gap => (gap.step 1).cross
  | c :: rest, none, gap =>
    if c = '\n' then scan rest none (gap.cross.step 1)
    else if c = ' ' then scan rest none ({ gap with indent := gap.indent + 1 }.step 1)
    else if c = '\t' then scan rest none ({ gap with indent := gap.indent + 8 }.step 1)
    else if c = '\r' || c = '\x0c' then scan rest none ({ gap with indent := 0 }.step 1)
    else if c = '\x0b' || c = '\ufeff' || c = '\u2060' || c = '\u200b' then scan rest none (gap.step 1)
    else if c = '#' then scan rest (some gap.cursor) (gap.step 1)
    else gap

def after (cursor : Cursor) : Gap :=
  scan cursor.rest none ⟨[], [], false, 0, cursor⟩

/-- The comments that stand on the line of the token before. -/
def trailing (gap : Gap) : List Remark :=
  gap.remarks.takeWhile (·.sameLine)

end Gap

/-- What has been passed up to the last of some comments. -/
def passedUpTo (remarks : List Remark) : List Piece :=
  (remarks.getLast?.map (·.passed)).getD []

/-- The place where the last of some comments ends. -/
def endOf (cursor : Cursor) (remarks : List Remark) : Cursor :=
  (remarks.getLast?.map (·.stop)).getD cursor

/-- An ordinary token may stand on a later line, but not at a lower indentation outside
brackets: there the block ends first. -/
def locate (cursor : Cursor) : Option Gap :=
  let gap := Gap.after cursor
  if gap.crossed && cursor.lines != .bracketed && gap.indent < cursor.indent then none else some gap

def gap (cursor : Cursor) : Option (List Piece × Cursor) :=
  (locate cursor).map fun gap => (gap.passed, gap.cursor)

def isHexDigit (c : Char) : Bool :=
  Word.isAsciiDigit c || ('a' ≤ c && c ≤ 'f') || ('A' ≤ c && c ≤ 'F')

/-- The length of a run of digits in which single underscores may follow a digit. -/
def digitRun : Bool → List Char → Nat
  | _, [] => 0
  | afterDigit, c :: rest =>
    if Word.isAsciiDigit c then digitRun true rest + 1
    else if c = '_' && afterDigit then digitRun false rest + 1
    else 0

/-- The length of a run of digits of a base in which single underscores may precede a
digit. -/
def basedRun (isDigit : Char → Bool) : List Char → Nat
  | [] => 0
  | '_' :: c :: rest => if isDigit c then basedRun isDigit rest + 2 else 0
  | c :: rest => if isDigit c then basedRun isDigit rest + 1 else 0

def basedLength (isDigit : Char → Bool) (rest : List Char) : Nat :=
  let run := basedRun isDigit rest
  if run = 0 then 1
  else
    match rest.drop run with
    | 'l' :: _ | 'L' :: _ => run + 3
    | _ => run + 2

def integerLength : List Char → Nat
  | '0' :: 'x' :: rest | '0' :: 'X' :: rest => basedLength isHexDigit rest
  | '0' :: 'o' :: rest | '0' :: 'O' :: rest => basedLength (fun c => '0' ≤ c && c ≤ '7') rest
  | '0' :: 'b' :: rest | '0' :: 'B' :: rest => basedLength (fun c => c = '0' || c = '1') rest
  | text =>
    let run := digitRun false text
    if run = 0 then 0
    else
      match text.drop run with
      | 'l' :: _ | 'L' :: _ | 'j' :: _ | 'J' :: _ => run + 1
      | _ => run

def exponentLength : List Char → Nat
  | e :: sign :: rest =>
    if e = 'e' || e = 'E' then
      if sign = '+' || sign = '-' then
        let run := digitRun false rest
        if run = 0 then 0 else run + 2
      else
        let run := digitRun false (sign :: rest)
        if run = 0 then 0 else run + 1
    else 0
  | _ => 0

def withImaginary (text : List Char) (length : Nat) : Nat :=
  match text.drop length with
  | 'j' :: _ | 'J' :: _ => length + 1
  | _ => length

def floatLength (text : List Char) : Nat :=
  let whole := digitRun false text
  match text.drop whole with
  | '.' :: rest =>
    let fraction := digitRun false rest
    if whole = 0 && fraction = 0 then 0
    else
      let length := whole + 1 + fraction
      withImaginary text (length + exponentLength (text.drop length))
  | rest =>
    let exponent := exponentLength rest
    if whole = 0 || exponent = 0 then 0 else withImaginary text (whole + exponent)

/-- The delimiter that opens a string at the front of a text, with its length. -/
def openQuote (text : List Char) : Option (Quote × Nat) :=
  let isFlag (c : Char) : Bool := "fFrRbBuU".toList.contains c
  let flags := text.takeWhile isFlag
  let has (c d : Char) : Bool := flags.contains c || flags.contains d
  let quote (mark : Char) (triple : Bool) : Quote :=
    ⟨mark, triple, has 'r' 'R', has 'b' 'B', has 'f' 'F'⟩
  match text.dropWhile isFlag with
  | '"' :: '"' :: '"' :: _ => some (quote '"' true, flags.length + 3)
  | '\'' :: '\'' :: '\'' :: _ => some (quote '\'' true, flags.length + 3)
  | '"' :: _ => some (quote '"' false, flags.length + 1)
  | '\'' :: _ => some (quote '\'' false, flags.length + 1)
  | c :: _ => if c.toNat = 96 then some (quote c false, flags.length + 1) else none
  | [] => none

/-- The length of plain content up to an escape, a brace that counts, or the delimiter.
`begun` tells whether content was passed already: a line end is allowed only as the first
character unless the delimiter is triple. `none` if the string is not closed. -/
def contentLength (quote : Quote) : Bool → List Char → Option Nat
  | _, [] => none
  | begun, '\\' :: next :: rest =>
    if quote.raw then
      if next = quote.mark || next = '\\' || next = '\n' then (contentLength quote begun rest).map (· + 2)
      else (contentLength quote begun (next :: rest)).map (· + 1)
    else if quote.bytes && (next = 'N' || next = 'u' || next = 'U') then
      (contentLength quote begun rest).map (· + 2)
    else some 0
  | begun, c :: rest =>
    if c = '\x00' then none
    else if quote.format && (c = '\x7b' || c = '\x7d') then some 0
    else if c = '\\' then some 0
    else if c = quote.mark then
      if quote.triple then
        match rest with
        | second :: third :: _ =>
          if second = quote.mark && third = quote.mark then some 0
          else (contentLength quote true rest).map (· + 1)
        | _ => none
      else some 0
    -- A line end at the very start of the content is passed over; a later one leaves the string open.
    else if c = '\n' && begun && !quote.triple then none
    else (contentLength quote true rest).map (· + 1)

/-- The length of an escape after its backslash; an unknown one is the backslash alone. -/
def escapeLength : List Char → Nat
  | c :: rest =>
    let hex (count : Nat) : Bool := (rest.take count).length = count && (rest.take count).all isHexDigit
    if c = 'u' then if hex 4 then 6 else 1
    else if c = 'U' then if hex 8 then 10 else 1
    else if c = 'x' then if hex 2 then 4 else 1
    else if Word.isAsciiDigit c then
      if (rest.take 2).length = 2 && (rest.take 2).all Word.isAsciiDigit then 4 else 1
    else if c = '\n' then 2
    else if c = '\r' then if rest.head? = some '\n' then 3 else 1
    else if c = 'N' then
      match rest with
      | '\x7b' :: name =>
        let length := (name.takeWhile (· ≠ '\x7d')).length
        if length = 0 || (name.drop length).isEmpty then 1 else length + 4
      | _ => 1
    else if "'\"abfrntv\\".toList.contains c then 2
    else 1
  | [] => 1

/-- The length of the next piece of content of a string. -/
def chunkLength (quote : Quote) (text : List Char) : Option Nat :=
  match text with
  | '\x7b' :: '\x7b' :: _ => if quote.format then some 2 else contentLength quote false text
  | '\x7d' :: '\x7d' :: _ => if quote.format then some 2 else contentLength quote false text
  | '\\' :: rest =>
    match contentLength quote false text with
    | some 0 => some (escapeLength rest)
    | length => length
  | _ => contentLength quote false text

def closes (quote : Quote) (text : List Char) : Bool :=
  if quote.triple then text.take 3 = [quote.mark, quote.mark, quote.mark]
  else text.head? = some quote.mark

/-- The comments at or above the indentation of a block still belong to it. -/
def blockComments (indent : Nat) (remarks : List Remark) : List Remark :=
  remarks.takeWhile fun remark => remark.sameLine || indent ≤ remark.indent

def lex : Lexeme → Cursor → Option (List Piece × Cursor × Cursor)
  | .integer, cursor => do
    let (comments, start) ← gap cursor
    let length := integerLength start.rest
    if length = 0 then none else some (comments, start, start.advance length)
  | .float, cursor => do
    let (comments, start) ← gap cursor
    let length := floatLength start.rest
    if length = 0 then none else some (comments, start, start.advance length)
  | .openString, cursor => do
    let gap ← locate cursor
    let (quote, length) ← openQuote gap.cursor.rest
    let stop := gap.cursor.advance length
    -- A line end that is continued right before a string leaves nothing in the tree.
    some (passedUpTo gap.remarks, gap.cursor, { stop with quotes := quote :: stop.quotes })
  | .stringChunk, cursor => do
    let quote ← cursor.quotes.head?
    let length ← chunkLength quote cursor.rest
    if length = 0 then none else some ([], cursor, cursor.advance length)
  | .closeString, cursor => do
    let quote ← cursor.quotes.head?
    if closes quote cursor.rest then
      let stop := cursor.advance (if quote.triple then 3 else 1)
      some ([], cursor, { stop with quotes := stop.quotes.tail })
    else none
  | .formatText, cursor =>
    let length := (cursor.rest.takeWhile fun c => c ≠ '\x7b' && c ≠ '\x7d' && c ≠ '\n').length
    if length = 0 then none else some ([], cursor, cursor.advance length)
  | .conversion, cursor => do
    let (comments, start) ← gap cursor
    match start.rest with
    | '!' :: c :: _ => if 'a' ≤ c && c ≤ 'z' then some (comments, start, start.advance 2) else none
    | _ => none
  | .newline, cursor =>
    let gap := Gap.after cursor
    if gap.crossed then
      let stop := endOf cursor gap.trailing
      some (passedUpTo gap.trailing, stop, stop)
    else none
  | .lineEnd, cursor =>
    if cursor.lines = .significant && (Gap.after cursor).crossed then some ([], cursor, cursor) else none
  | .indent, cursor =>
    let gap := Gap.after cursor
    if gap.crossed && cursor.indent < gap.indent then
      some ([], cursor, { cursor with indents := gap.indent :: cursor.indents })
    else none
  | .dedent, cursor =>
    let gap := Gap.after cursor
    if gap.crossed && gap.indent < cursor.indent then
      let own := blockComments cursor.indent gap.remarks
      let stop := endOf cursor own
      some (passedUpTo own, stop, { stop with indents := cursor.indents.tail })
    else none
  | .endOfText, cursor =>
    let gap := Gap.after cursor
    if gap.cursor.rest.isEmpty then some (gap.passed, gap.cursor, gap.cursor) else none

def lexing : Lexing Lexeme where
  gap := gap
  lex := lex
  wordLength := Word.length
  continuesWord := Word.continues

end CallPolicy.Syntax.Python
