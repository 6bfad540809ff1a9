import CallPolicy.Syntax.Grammar
import CallPolicy.Syntax.Word

/-! Tokens of Rust: nested comments, string and character literals, numbers. -/

set_option autoImplicit false

namespace CallPolicy.Syntax.Rust

inductive Lexeme where
  | integer
  | float
  | string
  | rawString
  | character
  | metavariable
  | separator
  | punctuation
  | shebang
  | bracesAllowed
  | endOfText
  deriving DecidableEq, Repr, Inhabited

def isBlank (c : Char) : Bool :=
  c = ' ' || ('\t' ≤ c && c ≤ '\r')

/-- The length of a block comment after its opening; comments nest. -/
def blockCommentLength : Nat → List Char → Option Nat
  | _, [] => none
  | depth, '/' :: '*' :: rest => (blockCommentLength (depth + 1) rest).map (· + 2)
  | 0, '*' :: '/' :: _ => some 2
  | depth + 1, '*' :: '/' :: rest => (blockCommentLength depth rest).map (· + 2)
  | depth, _ :: rest => (blockCommentLength depth rest).map (· + 1)

/-- What follows two slashes makes them a documentation comment. -/
def isDocumentation (text : List Char) : Bool :=
  match text with
  | '!' :: _ => true
  | '/' :: rest => rest.head? != some '/'
  | _ => false

/-- The length of the comment at the front of a text, zero without one. `none` if it is not
closed. A line of documentation has its line end in it. -/
def commentLength (text : List Char) : Option Nat :=
  match text with
  | '/' :: '/' :: rest =>
    let line := (rest.takeWhile (· ≠ '\n')).length
    some (if isDocumentation rest && line < rest.length then line + 3 else line + 2)
  | '/' :: '*' :: rest => (blockCommentLength 0 rest).map (· + 2)
  | _ => some 0

/-- Pass blanks and comments. -/
def gapFrom : Nat → Cursor → Option (List Piece × Cursor)
  | 0, cursor => some ([], cursor)
  | fuel + 1, cursor =>
    let start := cursor.advance (cursor.rest.takeWhile isBlank).length
    match commentLength start.rest with
    | none => none
    | some 0 => some ([], start)
    | some length =>
      let stop := start.advance length
      (gapFrom fuel stop).map fun (comments, cursor) =>
        (Piece.leaf .comment true start stop :: comments, cursor)

def gap (cursor : Cursor) : Option (List Piece × Cursor) :=
  gapFrom cursor.rest.length cursor

/-- A word, perhaps with the mark of a raw identifier. -/
def wordLength (text : List Char) : Nat :=
  match text with
  | 'r' :: '#' :: rest =>
    let length := Word.length rest
    if length = 0 then 1 else length + 2
  | _ => Word.length text

def isNumberChar (c : Char) : Bool :=
  c = '_' || Word.isAsciiDigit c

def isHexDigit (c : Char) : Bool :=
  Word.isAsciiDigit c || ('a' ≤ c && c ≤ 'f') || ('A' ≤ c && c ≤ 'F')

def numericSuffixes : List (List Char) :=
  ["u8", "i8", "u16", "i16", "u32", "i32", "u64", "i64", "u128", "i128", "isize", "usize", "f32",
   "f64"].map String.toList

def basedDigits (isDigit : Char → Bool) (rest : List Char) : Nat :=
  let run := (rest.takeWhile fun c => c = '_' || isDigit c).length
  if run = 0 then 1 else run + 2

def integerLength (text : List Char) : Nat :=
  let digits :=
    match text with
    | '0' :: 'x' :: rest => basedDigits isHexDigit rest
    | '0' :: 'b' :: rest => basedDigits (fun c => c = '0' || c = '1') rest
    | '0' :: 'o' :: rest => basedDigits (fun c => '0' ≤ c && c ≤ '7') rest
    | c :: rest => if Word.isAsciiDigit c then (rest.takeWhile isNumberChar).length + 1 else 0
    | [] => 0
  if digits = 0 then 0
  else
    match numericSuffixes.filter (·.isPrefixOf (text.drop digits)) with
    | [] => digits
    | suffix :: more => digits + more.foldl (fun length suffix => max length suffix.length) suffix.length

/-- The length of a type suffix of a float: a letter and digits. -/
def floatSuffix (text : List Char) : Nat :=
  match text with
  | c :: rest =>
    let digits := (rest.takeWhile Word.isAsciiDigit).length
    if (c = 'u' || c = 'i' || c = 'f') && 0 < digits then digits + 1 else 0
  | [] => 0

/-- The length of an exponent, and whether its letter stands there at all. -/
def exponentOf (text : List Char) : Nat × Bool :=
  match text with
  | c :: rest =>
    if c = 'e' || c = 'E' then
      let signed := match rest with
        | '+' :: _ | '-' :: _ => 1
        | _ => 0
      let digits := ((rest.drop signed).takeWhile isNumberChar).length
      (if digits = 0 then 0 else 1 + signed + digits, true)
    else (0, false)
  | [] => (0, false)

/-- A point makes a number a float unless a letter or another point follows. -/
def floatLength (text : List Char) : Nat :=
  match text with
  | first :: rest =>
    if Word.isAsciiDigit first then
      let whole := (rest.takeWhile isNumberChar).length + 1
      let places : Option Nat :=
        match text.drop whole with
        | '.' :: c :: _ =>
          if c = '.' || (c ≠ '_' && Word.begins c) then none
          else some (((text.drop (whole + 1)).takeWhile isNumberChar).length + 1)
        | ['.'] => some 1
        | _ => some 0
      match places with
      | none => 0
      | some places =>
        let body := whole + places
        let (exponent, marked) := exponentOf (text.drop body)
        if places = 0 && !marked then 0
        else if marked && exponent = 0 then body
        else body + exponent + floatSuffix (text.drop (body + exponent))
    else 0
  | [] => 0

/-- The length of an escape with its backslash; `none` if it is malformed. -/
def escapeLength (text : List Char) : Option Nat :=
  match text with
  | '\\' :: 'x' :: rest =>
    if (rest.take 2).length = 2 && (rest.take 2).all isHexDigit then some 4 else none
  | '\\' :: 'u' :: '\x7b' :: rest =>
    let digits := (rest.takeWhile isHexDigit).length
    if 0 < digits && (rest.drop digits).head? = some '\x7d' then some (digits + 4) else none
  | '\\' :: 'u' :: rest =>
    if (rest.take 4).length = 4 && (rest.take 4).all isHexDigit then some 6 else none
  | '\\' :: _ :: _ => some 2
  | _ => none

/-- The length of a string's content and closing quote. -/
def stringRest : Nat → List Char → Option Nat
  | 0, _ => none
  | _, [] => none
  | fuel + 1, c :: rest =>
    if c = '"' then some 1
    else if c = '\\' then do
      let length ← escapeLength (c :: rest)
      (stringRest fuel ((c :: rest).drop length)).map (· + length)
    else (stringRest fuel rest).map (· + 1)

def stringLength (text : List Char) : Option Nat :=
  match text with
  | '"' :: rest => (stringRest rest.length rest).map (· + 1)
  | 'b' :: '"' :: rest | 'c' :: '"' :: rest => (stringRest rest.length rest).map (· + 2)
  | _ => none

/-- The length of a raw string's content and closing delimiter. -/
def rawRest (hashes : Nat) : List Char → Option Nat
  | [] => none
  | c :: rest =>
    if c = '"' && rest.take hashes = List.replicate hashes '#' then some (hashes + 1)
    else (rawRest hashes rest).map (· + 1)

def rawStringLength (text : List Char) : Option Nat := do
  let (start, rest) ← match text with
    | 'r' :: rest => some (1, rest)
    | 'b' :: 'r' :: rest | 'c' :: 'r' :: rest => some (2, rest)
    | _ => none
  let hashes := (rest.takeWhile (· = '#')).length
  match rest.drop hashes with
  | '"' :: content => (rawRest hashes content).map (· + (start + hashes + 1))
  | _ => none

def characterLength (text : List Char) : Option Nat :=
  match text with
  | 'b' :: rest => (plain rest).map (· + 1)
  | _ => plain text
where
  plain (text : List Char) : Option Nat :=
    match text with
    | '\'' :: '\'' :: _ => some 2
    | '\'' :: '\\' :: rest => do
      let length ← escapeLength ('\\' :: rest)
      if (('\\' :: rest).drop length).head? = some '\'' then some (length + 2) else none
    | '\'' :: _ :: '\'' :: _ => some 3
    | _ => none

def metavariableLength (text : List Char) : Nat :=
  match text with
  | '$' :: c :: rest =>
    if Word.isAsciiLetter c || c = '_' then
      (rest.takeWhile fun c => c = '_' || Word.isAsciiLetter c || Word.isAsciiDigit c).length + 2
    else 0
  | _ => 0

/-- A first line that names an interpreter. -/
def shebangLength (text : List Char) : Nat :=
  match text with
  | '#' :: '!' :: rest =>
    let line := rest.takeWhile (· ≠ '\n')
    if line.length = rest.length then 0
    else if (line.dropWhile isBlank).head? = some '[' then 0
    else line.length + 3
  | _ => 0

def tokenPunctuation : List Char :=
  "+-*/%^!&|=<>@.,;:#?'".toList

def sized (cursor : Cursor) (length : List Char → Nat) : Option (List Piece × Cursor × Cursor) := do
  let (comments, start) ← gap cursor
  let length := length start.rest
  if length = 0 then none else some (comments, start, start.advance length)

def lex : Lexeme → Cursor → Option (List Piece × Cursor × Cursor)
  | .integer, cursor => sized cursor integerLength
  | .float, cursor => sized cursor floatLength
  | .string, cursor => sized cursor fun text => (stringLength text).getD 0
  | .rawString, cursor => sized cursor fun text => (rawStringLength text).getD 0
  | .character, cursor => sized cursor fun text => (characterLength text).getD 0
  | .metavariable, cursor => sized cursor metavariableLength
  | .separator, cursor => sized cursor fun text =>
      (text.takeWhile fun c => c ≠ '+' && c ≠ '*' && c ≠ '?').length
  | .punctuation, cursor => sized cursor fun text =>
      match text with
      | c :: _ => if tokenPunctuation.contains c then 1 else 0
      | [] => 0
  | .shebang, cursor =>
    let length := shebangLength cursor.rest
    if length = 0 then none else some ([], cursor, cursor.advance length)
  | .bracesAllowed, cursor => if cursor.braces then some ([], cursor, cursor) else none
  | .endOfText, cursor => do
    let (comments, stop) ← gap cursor
    if stop.rest.isEmpty then some (comments, stop, stop) else none

def lexing : Lexing Lexeme where
  gap := gap
  lex := lex
  wordLength := wordLength
  continuesWord := Word.continues

end CallPolicy.Syntax.Rust
