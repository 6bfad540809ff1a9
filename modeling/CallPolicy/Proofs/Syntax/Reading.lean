import CallPolicy.Proofs.Syntax.Walk
import CallPolicy.Syntax.Grammar

/-! What a grammar reads, and the laws that it keeps.

The readings of a rule are those of its parts, so an induction on readings needs neither fuel nor what is
refused. A law is a property of single nodes. It holds all through what is read when it holds of comments and
of the constructs that rules enclose. Which rules ensure that is decided by a look at the rules.
-/

set_option autoImplicit false

namespace CallPolicy.Syntax

/-! ### Trees that obey a law -/

namespace Node

/-- The law holds of all named nodes of the tree. -/
def Obeys (law : Node → Prop) (node : Node) : Prop :=
  ∀ inner ∈ node.preorder, law inner

theorem obeys_iff (law : Node → Prop) (node : Node) :
    node.Obeys law ↔ law node ∧ ∀ child ∈ node.namedChildren, child.Obeys law := by
  rw [Obeys, preorder_eq, List.forall_mem_cons, List.forall_mem_flatMap]
  rfl

theorem obeys_leaf {law : Node → Prop} {node : Node} (leaf : node.children = []) (lawful : law node) : node.Obeys law :=
  (obeys_iff law node).2 ⟨lawful, by simp [namedChildren, leaf]⟩

end Node

/-! ### Pieces -/

namespace Piece

/-- A comment between two tokens. -/
def IsRemark (piece : Piece) : Prop :=
  ∃ start stop, piece = leaf .comment true start stop

/-- The construct around some pieces stands after the comments in front of them. -/
theorem enclose_eq (kind : Kind) (cursor : Cursor) (pieces : List Piece) :
    ∃ piece, enclose kind cursor pieces = pieces.takeWhile isComment ++ [piece] ∧ piece.node.kind = kind ∧
      piece.node.named = true ∧ piece.node.children = (pieces.dropWhile isComment).map (·.node) := by
  unfold enclose
  cases pieces.dropWhile isComment with
  | nil => exact ⟨_, rfl, rfl, rfl, rfl⟩
  | cons first more => exact ⟨_, rfl, rfl, rfl, rfl⟩

end Piece

/-! ### Readings -/

variable {N L : Type}

/-- What a rule may read at a place, given what is on its left, and where the reading ends. -/
inductive Grammar.Reads (grammar : Grammar N L) : Rule N L → List Piece → Cursor → List Piece → Cursor → Prop where
  | empty {left : List Piece} {cursor : Cursor} : Reads grammar .empty left cursor [] cursor
  | token {kind : Option Kind} {terminal : Terminal L} {left pieces : List Piece} {cursor stop : Cursor} :
    grammar.token kind terminal cursor = .read pieces stop →
      Reads grammar (.token kind terminal) left cursor pieces stop
  | hidden {lexeme : L} {left comments : List Piece} {cursor start stop : Cursor} :
    grammar.lex lexeme cursor = some (comments, start, stop) → Reads grammar (.hidden lexeme) left cursor comments stop
  | seq {first second : Rule N L} {left earlier later : List Piece} {cursor middle stop : Cursor} :
    Reads grammar first left cursor earlier middle → Reads grammar second left middle later stop →
      Reads grammar (.seq first second) left cursor (earlier ++ later) stop
  | altFirst {first second : Rule N L} {left pieces : List Piece} {cursor stop : Cursor} :
    Reads grammar first left cursor pieces stop → Reads grammar (.alt first second) left cursor pieces stop
  | altSecond {first second : Rule N L} {left pieces : List Piece} {cursor stop : Cursor} {stuck : Stuck} :
    Reads grammar second left { cursor with stuck } pieces stop → Reads grammar (.alt first second) left cursor pieces stop
  | manyNone {rule : Rule N L} {left : List Piece} {cursor : Cursor} {stuck : Stuck} :
    Reads grammar (.many rule) left cursor [] { cursor with stuck }
  | manyOnce {rule : Rule N L} {left pieces : List Piece} {cursor stop : Cursor} :
    Reads grammar rule [] cursor pieces stop → Reads grammar (.many rule) left cursor pieces stop
  | manyMore {rule : Rule N L} {left earlier later : List Piece} {cursor middle stop : Cursor} :
    Reads grammar rule [] cursor earlier middle → Reads grammar (.many rule) [] middle later stop →
      Reads grammar (.many rule) left cursor (earlier ++ later) stop
  | node {kind : Kind} {rule : Rule N L} {left parts : List Piece} {cursor stop : Cursor} :
    Reads grammar rule [] cursor parts stop → Reads grammar (.node kind rule) left cursor (Piece.enclose kind stop parts) stop
  | role {role : Role} {rule : Rule N L} {left pieces : List Piece} {cursor stop : Cursor} :
    Reads grammar rule left cursor pieces stop →
      Reads grammar (.role role rule) left cursor (pieces.map (Piece.withRole role)) stop
  | ref {name : N} {left pieces : List Piece} {cursor stop : Cursor} :
    Reads grammar (grammar.rule name) left cursor pieces stop → Reads grammar (.ref name) left cursor pieces stop
  | not {rule : Rule N L} {left : List Piece} {cursor : Cursor} : Reads grammar (.not rule) left cursor [] cursor
  | ahead {rule : Rule N L} {left : List Piece} {cursor : Cursor} : Reads grammar (.ahead rule) left cursor [] cursor
  | after {kinds : List Kind} {left : List Piece} {cursor : Cursor} : Reads grammar (.after kinds) left cursor [] cursor
  | extend {head link : Rule N L} {left front pieces : List Piece} {cursor middle stop : Cursor} :
    Reads grammar head left cursor front middle → Reads grammar link front middle pieces stop →
      Reads grammar (.extend head link) left cursor pieces stop
  | linksDone {link : Rule N L} {left : List Piece} {cursor : Cursor} {stuck : Stuck} :
    Reads grammar (.links link) left cursor left { cursor with stuck }
  | linksMore {link : Rule N L} {left front pieces : List Piece} {cursor middle stop : Cursor} :
    Reads grammar link left cursor front middle → Reads grammar (.links link) front middle pieces stop →
      Reads grammar (.links link) left cursor pieces stop
  | grow {kind : Kind} {rule : Rule N L} {left parts : List Piece} {cursor stop : Cursor} :
    Reads grammar rule [] cursor parts stop →
      Reads grammar (.grow kind none rule) left cursor (Piece.enclose kind stop (left ++ parts)) stop
  | growFrom {kind : Kind} {role : Role} {rule : Rule N L} {left parts : List Piece} {cursor stop : Cursor} :
    Reads grammar rule [] cursor parts stop →
      Reads grammar (.grow kind (some role) rule) left cursor
        (Piece.enclose kind stop (left.map (Piece.withRole role) ++ parts)) stop
  | only {kinds : List Kind} {rule : Rule N L} {left pieces : List Piece} {cursor stop : Cursor} :
    Reads grammar rule [] cursor pieces stop → Reads grammar (.only kinds rule) left cursor pieces stop
  | append {rule : Rule N L} {left pieces : List Piece} {cursor stop : Cursor} :
    Reads grammar rule [] cursor pieces stop → Reads grammar (.append rule) left cursor (left ++ pieces) stop
  | under {setting : Setting} {rule : Rule N L} {left pieces : List Piece} {cursor stop : Cursor} {lines : LineMode}
      {braces : Bool} :
    Reads grammar rule left { cursor with lines, braces } pieces stop →
      Reads grammar (.under setting rule) left cursor pieces { stop with lines := cursor.lines, braces := cursor.braces }
  | statement {rule : Rule N L} {left pieces : List Piece} {cursor stop : Cursor} {statement : Nat} :
    Reads grammar rule left { cursor with statement } pieces stop →
      Reads grammar (.statement rule) left cursor pieces { stop with statement := cursor.statement }

namespace Grammar

variable {grammar : Grammar N L} {fuel : Nat} {rule : Rule N L} {left pieces : List Piece} {cursor stop : Cursor}

/-- Whatever the fuel, what is read is a reading. -/
theorem reads_of_run (read : grammar.run fuel rule left cursor = .read pieces stop) :
    grammar.Reads rule left cursor pieces stop := by
  -- The fuel goes down at every step, also where the rule stays the same, so the induction is on it.
  induction fuel generalizing rule left pieces cursor stop with
  | zero => cases read
  | succ fuel ih =>
    cases rule with
    | empty => cases read; exact .empty
    | fail => cases read
    | token kind terminal => exact .token read
    | hidden lexeme =>
      rw [run] at read
      split at read
      · cases read
      · next found => cases read; exact .hidden found
    | seq first second =>
      rw [run] at read
      split at read
      · cases read
      · next here =>
        split at read
        · cases read
        · next there => cases read; exact .seq (ih here) (ih there)
    | alt first second =>
      rw [run] at read
      split at read
      · exact .altSecond (ih read)
      · next here => cases read; exact .altFirst (ih here)
    | many rule =>
      rw [run] at read
      split at read
      · cases read; exact .manyNone
      · next once =>
        split at read
        · cases read; exact .manyOnce (ih once)
        · split at read
          · cases read
          · next again => cases read; exact .manyMore (ih once) (ih again)
    | node kind rule =>
      rw [run] at read
      split at read
      · cases read
      · next inside => cases read; exact .node (ih inside)
    | role role rule =>
      rw [run] at read
      split at read
      · cases read
      · next inside => cases read; exact .role (ih inside)
    | ref name => exact .ref (ih read)
    | not rule =>
      rw [run] at read
      split at read
      · cases read; exact .not
      · cases read
    | ahead rule =>
      rw [run] at read
      split at read
      · cases read
      · cases read; exact .ahead
    | extend head link =>
      rw [run] at read
      split at read
      · cases read
      · next here => exact .extend (ih here) (ih read)
    | links link =>
      rw [run] at read
      split at read
      · cases read; exact .linksDone
      · next here => exact .linksMore (ih here) (ih read)
    | grow kind role rule =>
      simp only [run] at read
      split at read
      · cases read
      · next inside =>
        cases read
        cases role with
        | none => exact .grow (ih inside)
        | some role => exact .growFrom (ih inside)
    | only kinds rule =>
      rw [run] at read
      split at read
      · cases read
      · next inside =>
        split at read
        · split at read
          · cases read; exact .only (ih inside)
          · cases read
        · cases read
    | after kinds =>
      rw [run] at read
      split at read
      · split at read
        · cases read; exact .after
        · cases read
      · cases read
    | append rule =>
      rw [run] at read
      split at read
      · cases read
      · next inside => cases read; exact .append (ih inside)
    | under setting rule =>
      simp only [run] at read
      split at read
      · cases read
      · next inside =>
        cases read
        cases setting <;> exact .under (ih inside)
    | statement rule =>
      rw [run] at read
      split at read
      · cases read
      · next inside => cases read; exact .statement (ih inside)

/-- A tree is what is read of its text, or tells of an error. -/
theorem parse_cases (grammar : Grammar N L) (root : Kind) (top : Rule N L) (text : List Char) :
    (∃ pieces stop, grammar.Reads top [] (Cursor.start text) pieces stop ∧ grammar.parse root top text =
      ⟨root, true, none, 1, String.ofList text, false, false, pieces.map (·.node)⟩) ∨
    ∃ line, grammar.parse root top text = ⟨root, true, none, 1, String.ofList text, false, true,
      [⟨.error, true, none, line, String.ofList text, false, true, []⟩]⟩ := by
  unfold parse
  dsimp only
  split
  · next pieces stop read => exact .inl ⟨pieces, stop, reads_of_run read, rfl⟩
  · exact .inr ⟨_, rfl⟩

/-- A tree obeys a law that what is read of its text obeys, and that says nothing of its root and of errors. -/
theorem parse_obeys {law : Node → Prop} {root : Kind} {top : Rule N L} {text : List Char}
    (rootLawful : ∀ node : Node, node.kind = root → law node) (errorLawful : ∀ node : Node, node.kind = .error → law node)
    (readLawful : ∀ {pieces stop}, grammar.Reads top [] (Cursor.start text) pieces stop →
      ∀ piece ∈ pieces, piece.node.Obeys law) : (grammar.parse root top text).Obeys law := by
  rcases grammar.parse_cases root top text with ⟨pieces, stop, reads, same⟩ | ⟨line, same⟩ <;> rw [same]
  · refine (Node.obeys_iff _ _).2 ⟨rootLawful _ rfl, fun child member => ?_⟩
    obtain ⟨piece, found, rfl⟩ := List.mem_map.1 (List.mem_of_mem_filter member)
    exact readLawful reads piece found
  · refine (Node.obeys_iff _ _).2 ⟨rootLawful _ rfl, fun child member => ?_⟩
    obtain rfl := List.mem_singleton.1 (List.mem_of_mem_filter member)
    exact Node.obeys_leaf rfl (errorLawful _ rfl)

namespace Reads

/-- A reading of a construct ends with it; before it there are only comments. -/
theorem node_last {kind : Kind} (reads : grammar.Reads (.node kind rule) left cursor pieces stop) :
    ∃ comments construct, pieces = comments ++ [construct] ∧ (∀ piece ∈ comments, piece.node.kind = .comment) ∧
      construct.node.kind = kind ∧ construct.node.named = true := by
  cases reads with
  | @node _ _ _ parts _ _ inside =>
    obtain ⟨construct, same, ofKind, named, _⟩ := Piece.enclose_eq kind stop parts
    refine ⟨_, construct, same, fun piece member => ?_, ofKind, named⟩
    exact eq_of_beq (List.all_eq_true.1 List.all_takeWhile piece member)

/-- What holds of each reading of a rule holds of its repetitions. -/
theorem many {property : Piece → Prop} (reads : grammar.Reads (.many rule) left cursor pieces stop)
    (once : ∀ {cursor pieces stop}, grammar.Reads rule [] cursor pieces stop → ∀ piece ∈ pieces, property piece) :
    ∀ piece ∈ pieces, property piece := by
  generalize repeated : rule.many = whole at reads
  induction reads with
  | manyNone => exact List.forall_mem_nil _
  | manyOnce here =>
    cases repeated
    exact once here
  | manyMore here _ _ again =>
    cases repeated
    exact List.forall_mem_append.2 ⟨once here, again rfl⟩
  | _ => cases repeated

end Reads

end Grammar

/-! ### Rules -/

/-- What comes before a token is comments. -/
structure Lexing.RemarksOnly (lexing : Lexing L) : Prop where
  gap : ∀ {cursor pieces start}, lexing.gap cursor = some (pieces, start) → ∀ piece ∈ pieces, piece.IsRemark
  lex : ∀ {lexeme cursor pieces start stop}, lexing.lex lexeme cursor = some (pieces, start, stop) →
    ∀ piece ∈ pieces, piece.IsRemark

/-- A token is a leaf after what comes before it: a lexeme finds its own beginning, and other tokens
begin behind the gap or right at the cursor. -/
theorem Lexing.token_read {lexing : Lexing L} {kind : Option Kind} {terminal : Terminal L} {cursor stop : Cursor}
    {pieces : List Piece} (read : lexing.token kind terminal cursor = .read pieces stop) :
    ∃ comments start, pieces = comments ++ [Piece.leaf (kind.getD .punctuation) kind.isSome start stop] ∧
      ((∃ lexeme, lexing.lex lexeme cursor = some (comments, start, stop)) ∨
        (lexing.gap cursor = some (comments, start) ∨ comments = [] ∧ start = cursor) ∧
          ∃ length, stop = start.advance length) := by
  cases terminal with
  | lexeme lexeme =>
    cases found : lexing.lex lexeme cursor with
    | none => simp [Lexing.token, found] at read
    | some result =>
      simp only [Lexing.token, found, Reading.read.injEq] at read
      obtain ⟨rfl, rfl⟩ := read
      exact ⟨_, _, by cases kind <;> rfl, .inl ⟨lexeme, found⟩⟩
  | adjoined text =>
    simp only [Lexing.token] at read
    split at read
    · cases read
    · simp only [Reading.read.injEq] at read
      obtain ⟨rfl, rfl⟩ := read
      exact ⟨[], cursor, by cases kind <;> rfl, .inr ⟨.inr ⟨rfl, rfl⟩, _, rfl⟩⟩
  | _ =>
    cases found : lexing.gap cursor with
    | none => simp [Lexing.token, found] at read
    | some result =>
      simp only [Lexing.token, found] at read
      split at read
      · cases read
      · simp only [Reading.read.injEq] at read
        obtain ⟨rfl, rfl⟩ := read
        exact ⟨_, _, by cases kind <;> rfl, .inr ⟨.inl rfl, _, rfl⟩⟩

theorem Lexing.RemarksOnly.token {lexing : Lexing L} (remarks : lexing.RemarksOnly) {kind : Option Kind}
    {terminal : Terminal L} {cursor stop : Cursor} {pieces : List Piece}
    (read : lexing.token kind terminal cursor = .read pieces stop) :
    ∃ comments start, (∀ piece ∈ comments, piece.IsRemark) ∧
      pieces = comments ++ [Piece.leaf (kind.getD .punctuation) kind.isSome start stop] := by
  obtain ⟨comments, start, same, ⟨lexeme, found⟩ | ⟨found | ⟨rfl, _⟩, _⟩⟩ := token_read read
  · exact ⟨comments, start, remarks.lex found, same⟩
  · exact ⟨comments, start, remarks.gap found, same⟩
  · exact ⟨[], start, List.forall_mem_nil _, same⟩

/-- A way to look at rules: the constructs that they may refer to, the kinds of which a law says
nothing, and the other constructs that they may enclose. -/
structure Check (N L : Type) where
  forms : N → Bool
  plain : Kind → Bool
  encloses : Kind → Rule N L → Bool

/-- Nothing in the rule leads to a node that the check does not expect. What is only looked at
leaves no node. -/
def Rule.passes (check : Check N L) : Rule N L → Bool
  | .empty | .fail | .hidden _ | .not _ | .ahead _ | .after _ => true
  | .token kind _ => check.plain (kind.getD .punctuation)
  | .seq first second | .alt first second => first.passes check && second.passes check
  | .extend head link => head.passes check && link.passes check
  | .many rule | .role _ rule | .links rule | .only _ rule | .append rule | .under _ rule | .statement rule =>
    rule.passes check
  | .node kind rule => (check.plain kind || check.encloses kind rule) && rule.passes check
  | .grow kind _ rule => check.plain kind && rule.passes check
  | .ref name => check.forms name

/-- What is read by rules that pass the check obeys the law. -/
structure Check.Ensures (check : Check N L) (grammar : Grammar N L) (law : Node → Prop) : Prop where
  remarks : grammar.RemarksOnly
  comment : ∀ node : Node, node.kind = .comment → node.children = [] → law node
  role : ∀ (node : Node) (role : Role), law node → law { node with role := some role }
  plain : ∀ node : Node, check.plain node.kind = true → law node
  /-- The law may ask of a construct how its parts were read. -/
  encloses : ∀ {kind rule cursor pieces stop}, check.encloses kind rule = true →
    grammar.Reads rule [] cursor pieces stop → (∀ piece ∈ pieces, piece.node.Obeys law) →
    ∀ node : Node, node.kind = kind → node.children = (pieces.dropWhile Piece.isComment).map (·.node) → law node
  forms : ∀ name, check.forms name = true → (grammar.rule name).passes check = true

namespace Check.Ensures

variable {check : Check N L} {grammar : Grammar N L} {law : Node → Prop}

theorem remark_obeys (ensures : check.Ensures grammar law) {piece : Piece} (remark : piece.IsRemark) :
    piece.node.Obeys law := by
  obtain ⟨start, stop, rfl⟩ := remark
  exact Node.obeys_leaf rfl (ensures.comment _ rfl rfl)

theorem withRole_obeys (ensures : check.Ensures grammar law) (role : Role) {piece : Piece} (obeys : piece.node.Obeys law) :
    (piece.withRole role).node.Obeys law := by
  unfold Piece.withRole
  split
  · exact obeys
  · obtain ⟨here, below⟩ := (Node.obeys_iff _ _).1 obeys
    exact (Node.obeys_iff _ _).2 ⟨ensures.role _ _ here, below⟩

theorem enclose_obeys {kind : Kind} {cursor : Cursor} {pieces : List Piece}
    (obeyed : ∀ piece ∈ pieces, piece.node.Obeys law)
    (lawful : ∀ node : Node, node.kind = kind → node.children = (pieces.dropWhile Piece.isComment).map (·.node) → law node) :
    ∀ piece ∈ Piece.enclose kind cursor pieces, piece.node.Obeys law := by
  obtain ⟨construct, same, ofKind, _, children⟩ := Piece.enclose_eq kind cursor pieces
  rw [same, List.forall_mem_append, List.forall_mem_singleton]
  constructor
  · exact fun piece member => obeyed piece (List.takeWhile_subset _ member)
  · refine (Node.obeys_iff _ _).2 ⟨lawful _ ofKind children, fun child member => ?_⟩
    rw [Node.namedChildren, children] at member
    obtain ⟨part, found, rfl⟩ := List.mem_map.1 (List.mem_of_mem_filter member)
    exact obeyed part (List.dropWhile_subset _ found)

theorem token_obeys (ensures : check.Ensures grammar law) {kind : Option Kind} {terminal : Terminal L}
    {cursor stop : Cursor} {pieces : List Piece} (passes : check.plain (kind.getD .punctuation) = true)
    (read : grammar.token kind terminal cursor = .read pieces stop) : ∀ piece ∈ pieces, piece.node.Obeys law := by
  obtain ⟨comments, start, remarks, rfl⟩ := ensures.remarks.token read
  rw [List.forall_mem_append, List.forall_mem_singleton]
  exact ⟨fun piece member => ensures.remark_obeys (remarks piece member), Node.obeys_leaf rfl (ensures.plain _ passes)⟩

/-- A reading by a rule that passes adds to what it finds only what obeys the law. -/
theorem reads (ensures : check.Ensures grammar law) {rule : Rule N L} {left pieces : List Piece} {cursor stop : Cursor}
    (reads : grammar.Reads rule left cursor pieces stop) (passes : rule.passes check = true)
    (obeyed : ∀ piece ∈ left, piece.node.Obeys law) : ∀ piece ∈ pieces, piece.node.Obeys law := by
  have nothing : ∀ piece ∈ ([] : List Piece), piece.node.Obeys law := List.forall_mem_nil _
  induction reads with
  | empty | manyNone | not | ahead | after => exact nothing
  | linksDone => exact obeyed
  | token read => exact ensures.token_obeys passes read
  | hidden found => exact fun piece member => ensures.remark_obeys (ensures.remarks.lex found piece member)
  | seq _ _ first second =>
    obtain ⟨here, there⟩ := Bool.and_eq_true_iff.1 passes
    exact List.forall_mem_append.2 ⟨first here obeyed, second there obeyed⟩
  | altFirst _ ih => exact ih (Bool.and_eq_true_iff.1 passes).1 obeyed
  | altSecond _ ih => exact ih (Bool.and_eq_true_iff.1 passes).2 obeyed
  | manyOnce _ ih => exact ih passes nothing
  | manyMore _ _ once more => exact List.forall_mem_append.2 ⟨once passes nothing, more passes nothing⟩
  | node inside ih =>
    obtain ⟨allowed, inner⟩ := Bool.and_eq_true_iff.1 passes
    have parts := ih inner nothing
    refine enclose_obeys parts fun node ofKind children => ?_
    rcases Bool.or_eq_true_iff.1 allowed with plain | encloses
    · exact ensures.plain node (ofKind ▸ plain)
    · exact ensures.encloses encloses inside parts node ofKind children
  | grow _ ih =>
    obtain ⟨plain, inner⟩ := Bool.and_eq_true_iff.1 passes
    exact enclose_obeys (List.forall_mem_append.2 ⟨obeyed, ih inner nothing⟩) fun node ofKind _ =>
      ensures.plain node (ofKind ▸ plain)
  | growFrom _ ih =>
    obtain ⟨plain, inner⟩ := Bool.and_eq_true_iff.1 passes
    refine enclose_obeys (List.forall_mem_append.2 ⟨?_, ih inner nothing⟩) fun node ofKind _ =>
      ensures.plain node (ofKind ▸ plain)
    exact List.forall_mem_map.2 fun piece member => ensures.withRole_obeys _ (obeyed piece member)
  | role _ ih => exact List.forall_mem_map.2 fun piece member => ensures.withRole_obeys _ (ih passes obeyed piece member)
  | ref _ ih => exact ih (ensures.forms _ passes) obeyed
  | extend _ _ head link =>
    obtain ⟨here, there⟩ := Bool.and_eq_true_iff.1 passes
    exact link there (head here obeyed)
  | linksMore _ _ link rest => exact rest passes (link passes obeyed)
  | only _ ih => exact ih passes nothing
  | append _ ih => exact List.forall_mem_append.2 ⟨obeyed, ih passes nothing⟩
  | under _ ih => exact ih passes obeyed
  | statement _ ih => exact ih passes obeyed

/-- So does a whole tree, also when it only tells of an error. -/
theorem parse (ensures : check.Ensures grammar law) {root : Kind} {top : Rule N L} (rootPlain : check.plain root = true)
    (errorPlain : check.plain .error = true) (passes : top.passes check = true) (text : List Char) :
    (grammar.parse root top text).Obeys law :=
  Grammar.parse_obeys (fun node ofKind => ensures.plain node (ofKind ▸ rootPlain))
    (fun node ofKind => ensures.plain node (ofKind ▸ errorPlain))
    fun reads => ensures.reads reads passes (List.forall_mem_nil _)

end Check.Ensures

end CallPolicy.Syntax
