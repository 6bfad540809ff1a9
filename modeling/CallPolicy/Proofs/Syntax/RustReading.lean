import CallPolicy.Proofs.Syntax.Tidiness
import CallPolicy.Syntax.RustGrammar

/-! What Rust trees look like where comments stand between tokens. -/

set_option autoImplicit false

namespace CallPolicy.Syntax.Rust

theorem gapFrom_remarks {fuel : Nat} {cursor start : Cursor} {pieces : List Piece}
    (located : gapFrom fuel cursor = some (pieces, start)) : ∀ piece ∈ pieces, piece.IsRemark := by
  induction fuel generalizing cursor pieces start with
  | zero =>
    cases located
    exact List.forall_mem_nil _
  | succ fuel ih =>
    rw [gapFrom] at located
    split at located
    · cases located
    · cases located
      exact List.forall_mem_nil _
    · obtain ⟨⟨comments, stop⟩, later, same⟩ := Option.map_eq_some_iff.1 located
      cases same
      exact List.forall_mem_cons.2 ⟨⟨_, _, rfl⟩, ih later⟩

theorem gap_remarks {cursor start : Cursor} {pieces : List Piece} (located : gap cursor = some (pieces, start)) :
    ∀ piece ∈ pieces, piece.IsRemark :=
  gapFrom_remarks located

theorem sized_remarks {cursor start stop : Cursor} {length : List Char → Nat} {pieces : List Piece}
    (found : sized cursor length = some (pieces, start, stop)) : ∀ piece ∈ pieces, piece.IsRemark := by
  obtain ⟨⟨comments, begun⟩, located, rest⟩ := Option.bind_eq_some_iff.1 found
  dsimp only at rest
  split at rest
  · cases rest
  · cases rest
    exact gap_remarks located

theorem lexing_remarksOnly : lexing.RemarksOnly where
  gap := gap_remarks
  lex := by
    intro lexeme cursor pieces start stop found
    simp only [lexing] at found
    cases lexeme with
    | shebang =>
      rw [lex] at found
      split at found
      · cases found
      · cases found
        exact List.forall_mem_nil _
    | bracesAllowed =>
      rw [lex] at found
      split at found
      · cases found
        exact List.forall_mem_nil _
      · cases found
    | endOfText =>
      obtain ⟨⟨comments, begun⟩, located, rest⟩ := Option.bind_eq_some_iff.1 found
      dsimp only at rest
      split at rest
      · cases rest
        exact gap_remarks located
      · cases rest
    | _ =>
      rw [lex] at found
      exact sized_remarks found

/-- The forms of expressions that something indexed can be. -/
def Form.isIndexed : Form → Bool
  | atom | blockLike | ifExpression | block => true
  | _ => false

theorem tidies : grammar.Tidies Form.isIndexed where
  remarks := lexing_remarksOnly
  lead := by
    intro form
    cases form <;> decide +kernel
  tidy := by
    intro form
    cases form <;> decide +kernel

theorem parse_tidy (text : List Char) : (parse text).Tidy ∧ (parse text).isComment = false :=
  tidies.parse (by decide) (by decide) (by decide +kernel) text

end CallPolicy.Syntax.Rust
