import CallPolicy.Files.Glob
import CallPolicy.Files.Path
import CallPolicy.Text.Utf8

/-! Rules that say which files to pass over.

Each line of a file of rules is a glob of paths relative to the file's folder. The last
rule that matches a path decides; one that starts with `!` keeps the path.
-/

set_option autoImplicit false

namespace CallPolicy

structure IgnoreRule where
  glob : Glob
  keeps : Bool
  foldersOnly : Bool
  deriving Inhabited

/-- What rules say about a path. -/
inductive Verdict where
  | undecided
  | ignored
  | kept
  deriving DecidableEq, Repr, Inhabited

/-- The first decision counts. -/
def Verdict.or : Verdict → Verdict → Verdict
  | undecided, other => other
  | decided, _ => decided

namespace IgnoreRule

/-- Blanks that may end a line. -/
def isBlank (c : Char) : Bool :=
  (9 ≤ c.toNat && c.toNat ≤ 13) || c.toNat = 32 || c.toNat = 0x85 || c.toNat = 0xa0 || c.toNat = 0x1680
    || (0x2000 ≤ c.toNat && c.toNat ≤ 0x200a) || c.toNat = 0x2028 || c.toNat = 0x2029
    || c.toNat = 0x202f || c.toNat = 0x205f || c.toNat = 0x3000

def trimEnd (line : List Char) : List Char :=
  (line.reverse.dropWhile isBlank).reverse

/-- The text of a glob and how to take it. -/
structure Line where
  pattern : List Char
  keeps : Bool
  /-- The glob starts at the folder of the rules. -/
  anchored : Bool

/-- Take the marks off the front of a line. A backslash makes a mark an ordinary character. -/
def Line.ofText (line : List Char) : Line :=
  match line with
  | '\\' :: '!' :: rest => ⟨'!' :: rest, false, false⟩
  | '\\' :: '#' :: rest => ⟨'#' :: rest, false, false⟩
  | '!' :: '/' :: rest => ⟨rest, true, true⟩
  | '!' :: rest => ⟨rest, true, false⟩
  | '/' :: rest => ⟨rest, false, true⟩
  | rest => ⟨rest, false, false⟩

/-- Take the mark of folders off the end of a pattern. -/
def takeFolderMark (pattern : List Char) : List Char × Bool :=
  match pattern.reverse with
  | '/' :: '\\' :: before => (before.reverse, true)
  | '/' :: before => (before.reverse, true)
  | _ => (pattern, false)

/-- Without a separator inside, a pattern holds at any depth. -/
def atAnyDepth (anchored : Bool) (pattern : List Char) : List Char :=
  if anchored || pattern.contains '/' || pattern = ['*', '*'] then pattern
  else '*' :: '*' :: '/' :: pattern

/-- What ends in `/**` means all within a folder, not the folder. -/
def withinFolder (pattern : List Char) : List Char :=
  if ['/', '*', '*'].isSuffixOf pattern then pattern ++ ['/', '*'] else pattern

/-- The rule of a line. Blank lines, comments and lines that are no globs have none. -/
def ofLine? (lenient : Bool) (line : List Char) : Option IgnoreRule :=
  if line.head? = some '#' then none
  else
    -- A blank at the end stays when a backslash keeps it.
    let line := if ['\\', ' '].isSuffixOf line then line else trimEnd line
    if line.isEmpty then none
    else
      let parts := Line.ofText line
      let (pattern, foldersOnly) := takeFolderMark parts.pattern
      (Glob.ofText? lenient (withinFolder (atAnyDepth parts.anchored pattern))).map fun glob =>
        ⟨glob, parts.keeps, foldersOnly⟩

/-- The rules of lines in a file. -/
def ofLines (lines : List (List Char)) : List IgnoreRule :=
  lines.filterMap (ofLine? true)

/-- Rules that ignore what matches a pattern of the settings. -/
def ofPatterns (patterns : List String) : List IgnoreRule :=
  -- Patterns of the settings read the other way round: as they stand they would keep files.
  (patterns.filterMap fun pattern => ofLine? false ('!' :: pattern.toList)).map fun rule =>
    { rule with keeps := !rule.keeps }

def pathBytes (names : List String) : List UInt8 :=
  Text.utf8 (String.intercalate "/" names)

/-- The last rule that matches decides. -/
def verdict (rules : List IgnoreRule) (names : List String) (isFolder : Bool) : Verdict :=
  match rules.reverse.find? fun rule =>
      (!rule.foldersOnly || isFolder) && rule.glob.accepts (pathBytes names) with
  | some rule => if rule.keeps then .kept else .ignored
  | none => .undecided

end IgnoreRule

end CallPolicy
