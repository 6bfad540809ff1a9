import CallPolicy.Distinct

/-! Globs: patterns of paths.

A glob matches the bytes of a whole path. `?`, `*` and character classes stand for single
bytes; of these only a class may match the separator.
-/

set_option autoImplicit false

namespace CallPolicy

inductive GlobToken where
  | literal (c : Char)
  /-- `?` -/
  | any
  /-- `*` within a name -/
  | run
  /-- `**` and a separator at the start: any folders, or none -/
  | foldersBefore
  /-- a separator and `**` at the end -/
  | allWithin
  /-- `**` between separators -/
  | foldersBetween
  | oneOf (negated : Bool) (ranges : List (Char × Char))
  | alternatives (branches : List (List GlobToken))
  deriving Inhabited

abbrev Glob := List GlobToken

namespace Glob

/-! ### Reading -/

/-- A group of alternatives that is still open: what came before it and the branches read
so far, both in reverse. -/
structure Group where
  before : Glob
  branches : List Glob

/-- Tokens are in reverse. `literalBrackets` says that brackets no longer begin classes. -/
structure Reading where
  groups : List Group
  tokens : Glob
  previous : Option Char
  literalBrackets : Bool

def Reading.push (reading : Reading) (token : GlobToken) (previous : Char) : Reading :=
  { reading with tokens := token :: reading.tokens, previous := some previous }

/-- A `**` that stands between names, after a separator. -/
def Reading.between (reading : Reading) (token : GlobToken) (previous : Char) : Reading :=
  match reading.tokens with
  | .foldersBefore :: _ | .allWithin :: _ => { reading with previous := some previous }
  | _ :: rest => { reading with tokens := token :: rest, previous := some previous }
  | [] => { reading with tokens := [token], previous := some previous }

/-- Read what follows a star. -/
def readStar (reading : Reading) : List Char → Reading × List Char
  | '*' :: rest =>
    let runs := ((reading.push .run '*').push .run '*', rest)
    if reading.tokens.isEmpty then
      match rest with
      | [] => (reading.push .foldersBefore '*', [])
      | '/' :: rest => (reading.push .foldersBefore '/', rest)
      | _ => runs
    else if reading.previous != some '/'
        && (reading.groups.isEmpty || (reading.previous != some ',' && reading.previous != some '\x7b')) then
      runs
    else
      match rest with
      | [] => (reading.between .allWithin '*', [])
      | '/' :: rest => (reading.between .foldersBetween '/', rest)
      | c :: _ =>
        if (c = ',' || c = '\x7d') && !reading.groups.isEmpty then (reading.between .allWithin '*', rest)
        else runs
  | rest => (reading.push .run '*', rest)

/-- The outcome of reading a class. -/
inductive ClassReading where
  | closed (ranges : List (Char × Char)) (rest : List Char)
  | unclosed
  | invalid

/-- Read a class up to its closing bracket, which may also come first as a character.
Ranges are in reverse; `waiting` says that a range lacks its end. -/
def readClass (first waiting : Bool) (ranges : List (Char × Char)) : List Char → ClassReading
  | [] => .unclosed
  | c :: rest =>
    if c = ']' && !first then
      .closed ((if waiting then ('-', '-') :: ranges else ranges).reverse) rest
    else if c = '-' && !first && !waiting then readClass false true ranges rest
    else
      match waiting, ranges with
      | true, (low, _) :: before =>
        if c < low then .invalid else readClass false false ((low, c) :: before) rest
      | _, _ => readClass false false ((c, c) :: ranges) rest

/-- Read a glob to its end, in fewer steps than the fuel. -/
def read (lenient : Bool) : Nat → Reading → List Char → Option Glob
  | 0, _, _ => none
  | _ + 1, reading, [] => if reading.groups.isEmpty then some reading.tokens.reverse else none
  | fuel + 1, reading, c :: rest =>
    if c = '?' then read lenient fuel (reading.push .any c) rest
    else if c = '*' then
      let (reading, rest) := readStar reading rest
      read lenient fuel reading rest
    else if c = '[' && !reading.literalBrackets then
      let (negated, contents) :=
        match rest with
        | '!' :: contents => (true, contents)
        | '^' :: contents => (true, contents)
        | contents => (false, contents)
      match readClass true false [] contents with
      | .closed ranges rest => read lenient fuel (reading.push (.oneOf negated ranges) ']') rest
      | .unclosed =>
        if lenient then read lenient fuel { reading.push (.literal c) c with literalBrackets := true } rest
        else none
      | .invalid => none
    else if c = '\x7b' then
      read lenient fuel
        { reading with groups := ⟨reading.tokens, []⟩ :: reading.groups, tokens := [], previous := some c } rest
    else if c = '\x7d' then
      match reading.groups with
      | [] => none
      | group :: groups =>
        read lenient fuel
          { reading with
            groups
            tokens := .alternatives ((reading.tokens.reverse :: group.branches).reverse) :: group.before
            previous := some c } rest
    else if c = ',' then
      match reading.groups with
      | [] => read lenient fuel (reading.push (.literal c) c) rest
      | group :: groups =>
        read lenient fuel
          { reading with
            groups := { group with branches := reading.tokens.reverse :: group.branches } :: groups
            tokens := []
            previous := some c } rest
    else if c = '\\' then
      match rest with
      | [] => none
      | escaped :: rest => read lenient fuel (reading.push (.literal escaped) escaped) rest
    else read lenient fuel (reading.push (.literal c) c) rest

/-- A lenient reader takes a bracket that is never closed for a literal one. -/
def ofText? (lenient : Bool) (text : List Char) : Option Glob :=
  read lenient (text.length + 1) ⟨[], [], none, false⟩ text

/-! ### Matching -/

def separator : UInt8 := 47

/-- All ends of a text, itself included. -/
def ends : List UInt8 → List (List UInt8)
  | [] => [[]]
  | byte :: rest => (byte :: rest) :: ends rest

/-- The ends of a text that begin in its first name. -/
def endsInName : List UInt8 → List (List UInt8)
  | [] => [[]]
  | byte :: rest => (byte :: rest) :: if byte = separator then [] else endsInName rest

/-- What follows each separator. -/
def afterSeparators : List UInt8 → List (List UInt8)
  | [] => []
  | byte :: rest => if byte = separator then rest :: afterSeparators rest else afterSeparators rest

def dropBytes : List UInt8 → List UInt8 → List (List UInt8)
  | [], text => [text]
  | byte :: bytes, first :: text => if byte = first then dropBytes bytes text else []
  | _ :: _, [] => []

/-- A range of characters as ranges of bytes. Of characters of several bytes, all but the
one next to the middle stand for themselves. -/
def byteRanges (range : Char × Char) : List (UInt8 × UInt8) :=
  let low := String.utf8EncodeChar range.1
  let high := String.utf8EncodeChar range.2
  if range.1 = range.2 then low.map fun byte => (byte, byte)
  else
    match low.reverse, high with
    | last :: before, first :: rest =>
      before.map (fun byte => (byte, byte)) ++ (last, first) :: rest.map fun byte => (byte, byte)
    | _, _ => []

def inClass (negated : Bool) (ranges : List (Char × Char)) (byte : UInt8) : Bool :=
  negated != (ranges.flatMap byteRanges).any fun range => range.1 ≤ byte && byte ≤ range.2

mutual

/-- What a token may leave of a text. -/
def tokenRests (text : List UInt8) : GlobToken → List (List UInt8)
  | .literal c => dropBytes (String.utf8EncodeChar c) text
  | .any =>
    match text with
    | byte :: rest => if byte = separator then [] else [rest]
    | [] => []
  | .run => endsInName text
  | .foldersBefore => text :: afterSeparators text
  | .allWithin =>
    match text with
    | byte :: rest => if byte = separator then ends rest else []
    | [] => []
  | .foldersBetween =>
    match text with
    | byte :: rest => if byte = separator then rest :: afterSeparators rest else []
    | [] => []
  | .oneOf negated ranges =>
    match text with
    | byte :: rest => if inClass negated ranges byte then [rest] else []
    | [] => []
  | .alternatives branches =>
    if allVoid branches then [text] else branchRests text branches

/-- What a glob may leave of a text. -/
def rests (text : List UInt8) : Glob → List (List UInt8)
  | [] => [text]
  | token :: glob => distinct ((tokenRests text token).flatMap fun rest => rests rest glob)

def branchRests (text : List UInt8) : List Glob → List (List UInt8)
  | [] => []
  | branch :: branches =>
    (if voidGlob branch then [] else rests text branch) ++ branchRests text branches

/-- A token without a pattern: branches without one do not count. -/
def voidToken : GlobToken → Bool
  | .alternatives branches => allVoid branches
  | _ => false

def voidGlob : Glob → Bool
  | [] => true
  | token :: glob => voidToken token && voidGlob glob

def allVoid : List Glob → Bool
  | [] => true
  | branch :: branches => voidGlob branch && allVoid branches

end

def accepts (glob : Glob) (path : List UInt8) : Bool :=
  match glob with
  -- A lone pattern of folders takes every path, files included.
  | [.foldersBefore] => true
  | glob => (rests path glob).contains []

end Glob

end CallPolicy
