import CallPolicy.CallGraph.Constructs
import CallPolicy.Proofs.Syntax.Tidiness
import CallPolicy.Syntax.PythonGrammar

/-! What Python trees look like where definitions are decorated.

Expressions hold no imports and no functions, for no rule leads from an expression to a statement. So a
decorated definition has decorators and comments without either, and the definition at its end.
-/

set_option autoImplicit false

namespace CallPolicy.Syntax.Python

open CallPolicy.Python (imports)

/-! ### Comments between tokens -/

namespace Gap

/-- All that has been passed is comments, at each of them and in the whole gap. -/
structure RemarksOnly (gap : Gap) : Prop where
  passed : ∀ piece ∈ gap.passed, piece.IsRemark
  remarks : ∀ remark ∈ gap.remarks, ∀ piece ∈ remark.passed, piece.IsRemark

variable {gap : Gap}

theorem RemarksOnly.pass (only : gap.RemarksOnly) (start : Cursor) : (gap.pass start).RemarksOnly :=
  ⟨List.forall_mem_append.2 ⟨only.passed, List.forall_mem_singleton.2 ⟨start, gap.cursor, rfl⟩⟩, only.remarks⟩

theorem RemarksOnly.remark (only : gap.RemarksOnly) (start : Cursor) : (gap.remark start).RemarksOnly := by
  have passed := (only.pass start).passed
  exact ⟨passed, List.forall_mem_append.2 ⟨only.remarks, List.forall_mem_singleton.2 passed⟩⟩

theorem RemarksOnly.scan (text : List Char) (inside : Option Cursor) (only : gap.RemarksOnly) :
    (Gap.scan text inside gap).RemarksOnly := by
  -- Only the end of a comment or of a continued line is passed; the rest moves the cursor.
  have moved {gap other : Gap} (only : gap.RemarksOnly) (passed : other.passed = gap.passed)
      (remarks : other.remarks = gap.remarks) : other.RemarksOnly :=
    ⟨passed ▸ only.passed, remarks ▸ only.remarks⟩
  fun_induction Gap.scan with
  | case1 gap => exact moved only rfl rfl
  | case2 start gap => exact moved (only.remark start) rfl rfl
  | case3 rest start gap ih => exact ih (moved (only.remark start) rfl rfl)
  | case5 rest gap ih => exact ih ((moved only rfl rfl : (gap.step 2).RemarksOnly).pass gap.cursor)
  | case6 rest gap ih => exact ih ((moved only rfl rfl : (gap.step 3).RemarksOnly).pass gap.cursor)
  | case7 gap => exact moved only rfl rfl
  | case14 => exact only
  | _ => rename_i ih; exact ih (moved only rfl rfl)

theorem remarksOnly_after (cursor : Cursor) : (after cursor).RemarksOnly :=
  RemarksOnly.scan _ _ ⟨List.forall_mem_nil _, List.forall_mem_nil _⟩

/-- What has been passed up to some of the comments is comments. -/
theorem RemarksOnly.passedUpTo (only : gap.RemarksOnly) {remarks : List Remark} (subset : remarks ⊆ gap.remarks) :
    ∀ piece ∈ passedUpTo remarks, piece.IsRemark := by
  rw [Python.passedUpTo]
  cases last : remarks.getLast? with
  | none => exact List.forall_mem_nil _
  | some remark => exact only.remarks remark (subset (List.mem_of_getLast? last))

end Gap

theorem locate_eq_some {cursor : Cursor} {gap : Gap} (located : locate cursor = some gap) : gap = Gap.after cursor := by
  unfold locate at located
  dsimp only at located
  split at located
  · cases located
  · cases located
    rfl

theorem gap_eq_some {cursor start : Cursor} {pieces : List Piece} (located : gap cursor = some (pieces, start)) :
    pieces = (Gap.after cursor).passed ∧ start = (Gap.after cursor).cursor := by
  obtain ⟨passed, found, same⟩ := Option.map_eq_some_iff.1 located
  cases locate_eq_some found
  cases same
  exact ⟨rfl, rfl⟩

theorem gap_remarks {cursor start : Cursor} {pieces : List Piece} (located : gap cursor = some (pieces, start)) :
    ∀ piece ∈ pieces, piece.IsRemark := by
  rw [(gap_eq_some located).1]
  exact (Gap.remarksOnly_after cursor).passed

theorem lexing_remarksOnly : lexing.RemarksOnly where
  gap := gap_remarks
  lex := by
    intro lexeme cursor pieces start stop found
    have only := Gap.remarksOnly_after cursor
    simp only [lexing] at found
    cases lexeme with
    | integer | float =>
      simp only [lex, Option.bind_eq_bind, Option.bind_eq_some_iff, Option.ite_none_left_eq_some, Option.some.injEq,
        Prod.mk.injEq, Prod.exists] at found
      grind [gap_remarks]
    | openString =>
      simp only [lex, Option.bind_eq_bind, Option.bind_eq_some_iff, Option.some.injEq, Prod.mk.injEq, Prod.exists] at found
      obtain ⟨gap, located, _, _, _, rfl, _, _⟩ := found
      cases locate_eq_some located
      exact only.passedUpTo (List.Subset.refl _)
    | conversion =>
      simp only [lex, Option.bind_eq_bind, Option.bind_eq_some_iff] at found
      obtain ⟨⟨comments, begun⟩, located, read⟩ := found
      grind [gap_remarks]
    | stringChunk | closeString | formatText | lineEnd | indent =>
      simp only [lex, Option.bind_eq_bind, Option.bind_eq_some_iff, Option.ite_none_left_eq_some,
        Option.ite_none_right_eq_some, Option.some.injEq, Prod.mk.injEq] at found
      grind
    | newline =>
      simp only [lex, Option.ite_none_right_eq_some, Option.some.injEq, Prod.mk.injEq] at found
      exact found.2.1 ▸ only.passedUpTo (List.takeWhile_subset _)
    | dedent =>
      simp only [lex, Option.ite_none_right_eq_some, Option.some.injEq, Prod.mk.injEq] at found
      exact found.2.1 ▸ only.passedUpTo (List.takeWhile_subset _)
    | endOfText =>
      simp only [lex, Option.ite_none_right_eq_some, Option.some.injEq, Prod.mk.injEq] at found
      exact found.2.1 ▸ only.passed

/-! ### Expressions -/

/-- The forms of which expressions are made. -/
def Form.isExpression : Form → Bool
  | .statement | .simpleStatement | .suite | .block => false
  | _ => true

def isImport (kind : Kind) : Bool :=
  kind == .importStatement || kind == .importFrom || kind == .importFuture

theorem imports_eq_nil {node : Node} (other : isImport node.kind = false) : imports node = [] := by
  unfold imports
  split <;> simp_all [isImport]

def expressionCheck : Check Form Lexeme where
  forms := Form.isExpression
  plain kind := !isImport kind && kind != .functionDefinition
  encloses _ _ := false

/-- The node defines no function and imports nothing. -/
structure Inert (node : Node) : Prop where
  noFunction : node.kind ≠ .functionDefinition
  noImports : imports node = []

/-- Expressions hold no functions and no imports. -/
theorem expressionCheck_ensures : expressionCheck.Ensures grammar Inert where
  remarks := lexing_remarksOnly
  comment node ofKind _ := ⟨by simp [ofKind], imports_eq_nil (ofKind ▸ rfl)⟩
  role node role inert := ⟨inert.noFunction, inert.noImports⟩
  plain node plain := by
    simp only [expressionCheck, Bool.and_eq_true, Bool.not_eq_true', bne_iff_ne] at plain
    exact ⟨plain.2, imports_eq_nil plain.1⟩
  encloses refused := nomatch refused
  forms := by
    intro form
    cases form <;> decide +kernel

/-! ### Decorated definitions -/

/-- Decorators made of expressions, and a definition. -/
def isDecorated : PythonRule → Bool
  | .seq (.seq (.node .decorator first) (.many (.node .decorator further)))
      (.alt (.node .classDefinition _) (.node .functionDefinition _)) =>
    first.passes expressionCheck && further.passes expressionCheck
  | _ => false

/-- Comments are leaves, and a decorated definition ends with what it defines. Before that there are no functions
and no imports. -/
structure WellDecorated (node : Node) : Prop where
  comment : node.kind = .comment → node.children = []
  decorated : node.kind = .decoratedDefinition →
    ∃ front definition, node.namedChildren = front ++ [definition] ∧ ∀ child ∈ front, child.Obeys Inert

def statementCheck : Check Form Lexeme where
  forms _ := true
  plain kind := kind != .comment && kind != .decoratedDefinition
  encloses kind rule := kind == .decoratedDefinition && isDecorated rule

theorem inert_comment {node : Node} (comment : node.kind = .comment) (leaf : node.children = []) : node.Obeys Inert :=
  (Node.obeys_iff _ _).2 ⟨⟨by simp [comment], imports_eq_nil (comment ▸ rfl)⟩, by simp [Node.namedChildren, leaf]⟩

variable {left pieces : List Piece} {cursor stop : Cursor}

/-- A decorator and the comments before it. -/
theorem decorator_inert {rule : PythonRule} (passes : rule.passes expressionCheck = true)
    (reads : grammar.Reads (.node .decorator rule) left cursor pieces stop) : ∀ piece ∈ pieces, piece.node.Obeys Inert := by
  cases reads with
  | node inside =>
    have obeyed := expressionCheck_ensures.reads inside passes (List.forall_mem_nil _)
    exact Check.Ensures.enclose_obeys obeyed fun node ofKind _ =>
      ⟨by simp [ofKind], imports_eq_nil (by simp [ofKind, isImport])⟩

theorem definition_last {classRule functionRule : PythonRule}
    (reads : grammar.Reads (.alt (.node .classDefinition classRule) (.node .functionDefinition functionRule)) left cursor
      pieces stop) :
    ∃ comments definition, pieces = comments ++ [definition] ∧ (∀ piece ∈ comments, piece.node.kind = .comment) ∧
      definition.node.kind ≠ .comment ∧ definition.node.named = true := by
  cases reads with
  | altFirst reads | altSecond reads =>
    obtain ⟨comments, definition, same, areComments, ofKind, named⟩ := reads.node_last
    exact ⟨comments, definition, same, areComments, by simp [ofKind], named⟩

/-- The decorators and their comments come first, then the comments of the definition and the
definition itself. -/
theorem decorated_read {rule : PythonRule} (decorated : isDecorated rule = true)
    (reads : grammar.Reads rule [] cursor pieces stop) (obeyed : ∀ piece ∈ pieces, piece.node.Obeys WellDecorated) :
    ∃ front definition, pieces = front ++ [definition] ∧ (∀ piece ∈ front, piece.node.Obeys Inert) ∧
      definition.isComment = false ∧ definition.node.named = true := by
  unfold isDecorated at decorated
  split at decorated
  · next first further classRule functionRule =>
    obtain ⟨firstPasses, furtherPasses⟩ := Bool.and_eq_true_iff.1 decorated
    cases reads with
    | @seq _ _ _ decorators _ _ _ _ readDecorators readDefinition =>
      obtain ⟨comments, definition, rfl, areComments, notComment, named⟩ := definition_last readDefinition
      refine ⟨decorators ++ comments, definition, by simp, ?_, by simpa [Piece.isComment] using notComment, named⟩
      rw [List.forall_mem_append]
      constructor
      · cases readDecorators with
        | seq readFirst readFurther =>
          exact List.forall_mem_append.2 ⟨decorator_inert firstPasses readFirst, readFurther.many (decorator_inert furtherPasses)⟩
      · intro piece member
        have well := ((Node.obeys_iff _ _).1 (obeyed piece (by simp [member]))).1
        exact inert_comment (areComments piece member) (well.comment (areComments piece member))
  · cases decorated

theorem statementCheck_ensures : statementCheck.Ensures grammar WellDecorated where
  remarks := lexing_remarksOnly
  comment node ofKind leaf := ⟨fun _ => leaf, by simp [ofKind]⟩
  role node role well := ⟨well.comment, well.decorated⟩
  plain node plain := by
    simp only [statementCheck, Bool.and_eq_true, bne_iff_ne] at plain
    exact ⟨fun comment => absurd comment plain.1, fun decorated => absurd decorated plain.2⟩
  encloses := by
    intro kind rule cursor pieces stop encloses reads obeyed node ofKind children
    simp only [statementCheck, Bool.and_eq_true, beq_iff_eq] at encloses
    obtain ⟨front, definition, rfl, inert, notComment, named⟩ := decorated_read encloses.2 reads obeyed
    have last : (front ++ [definition]).dropWhile Piece.isComment = front.dropWhile Piece.isComment ++ [definition] := by
      rw [List.dropWhile_append]
      split <;> simp_all
    refine ⟨by simp [ofKind, encloses.1], fun _ => ?_⟩
    refine ⟨((front.dropWhile Piece.isComment).map (·.node)).filter (·.named), definition.node, ?_, ?_⟩
    · simp [Node.namedChildren, children, last, named]
    · intro child member
      obtain ⟨piece, found, rfl⟩ := List.mem_map.1 (List.mem_of_mem_filter member)
      exact inert piece (List.dropWhile_subset _ found)
  forms := by
    intro form
    cases form <;> decide +kernel

theorem parse_wellDecorated (text : List Char) : (parse text).Obeys WellDecorated :=
  statementCheck_ensures.parse (by decide) (by decide) (by decide) text

/-! ### Where comments stand -/

/-- Nothing that Python is asked for is read off a first part. -/
theorem tidies : grammar.Tidies fun _ => false where
  remarks := lexing_remarksOnly
  lead := nofun
  tidy := by
    intro form
    cases form <;> decide +kernel

theorem parse_tidy (text : List Char) : (parse text).Tidy ∧ (parse text).isComment = false :=
  tidies.parse (by decide) (by decide) (by decide) text

end CallPolicy.Syntax.Python
