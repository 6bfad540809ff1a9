import CallPolicy.Proofs.Syntax.PythonReading
import CallPolicy.Proofs.Syntax.RustReading
import CallPolicy.Proofs.Syntax.SourceOrder

/-! The tokens of both languages come one after another.

A line end or a dedent stops behind the last comment that it passes, so it is known of each comment that all that
has been passed with it comes before its end.
-/

set_option autoImplicit false

namespace CallPolicy.Syntax.Python

/-! ### Comments of Python -/

namespace Gap

/-- What has been passed comes one after the other, up to the comment that is open or to the cursor, and so it does
up to the end of each comment. -/
structure Follows (low : Nat) (inside : Option Cursor) (gap : Gap) : Prop where
  passed : Piece.Placed low gap.passed (inside.getD gap.cursor).line
  begun : (inside.getD gap.cursor).line ≤ gap.cursor.line
  remarks : ∀ remark ∈ gap.remarks, Piece.Placed low remark.passed remark.stop.line ∧ remark.stop.line ≤ gap.cursor.line

variable {low : Nat} {gap : Gap}

theorem Follows.step {inside : Option Cursor} (follows : gap.Follows low inside) (count : Nat) :
    (gap.step count).Follows low inside := by
  have forward := gap.cursor.line_le_advance count
  have remarks : ∀ remark ∈ gap.remarks, Piece.Placed low remark.passed remark.stop.line ∧
      remark.stop.line ≤ (gap.cursor.advance count).line :=
    fun remark member => (follows.remarks remark member).imp_right fun before => Nat.le_trans before forward
  cases inside with
  | none => exact ⟨follows.passed.to_higher forward, Nat.le_refl _, remarks⟩
  | some start => exact ⟨follows.passed, Nat.le_trans follows.begun forward, remarks⟩

theorem Follows.pass {start : Cursor} (follows : gap.Follows low (some start)) : (gap.pass start).Follows low none :=
  ⟨follows.passed.append (Piece.placed_leaf (Nat.le_refl _) follows.begun), Nat.le_refl _, follows.remarks⟩

theorem Follows.remark {start : Cursor} (follows : gap.Follows low (some start)) : (gap.remark start).Follows low none := by
  have passed := follows.pass.passed
  exact ⟨passed, Nat.le_refl _,
    List.forall_mem_append.2 ⟨follows.remarks, List.forall_mem_singleton.2 ⟨passed, Nat.le_refl _⟩⟩⟩

theorem Follows.cross {inside : Option Cursor} (follows : gap.Follows low inside) : gap.cross.Follows low inside :=
  ⟨follows.passed, follows.begun, follows.remarks⟩

theorem Follows.indented {inside : Option Cursor} (follows : gap.Follows low inside) (indent : Nat) :
    Follows low inside { gap with indent } :=
  ⟨follows.passed, follows.begun, follows.remarks⟩

theorem Follows.open (follows : gap.Follows low none) : gap.Follows low (some gap.cursor) :=
  ⟨follows.passed, Nat.le_refl _, follows.remarks⟩

theorem Follows.scan (text : List Char) (inside : Option Cursor) (follows : gap.Follows low inside) :
    (Gap.scan text inside gap).Follows low none := by
  fun_induction Gap.scan with
  | case1 gap => exact follows.cross
  | case2 start gap => exact follows.remark.cross
  | case3 rest start gap ih => exact ih (follows.remark.cross.step 1)
  | case4 c rest start gap _ ih => exact ih (follows.step 1)
  | case5 rest gap ih => exact ih (follows.open.step 2).pass
  | case6 rest gap ih => exact ih (follows.open.step 3).pass
  | case7 gap => exact (follows.step 1).cross
  | case8 => rename_i ih; exact ih (follows.cross.step 1)
  | case9 | case10 | case11 => rename_i ih; exact ih ((follows.indented _).step 1)
  | case12 => rename_i ih; exact ih (follows.step 1)
  | case13 => rename_i ih; exact ih (follows.open.step 1)
  | case14 => exact follows

theorem follows_after (cursor : Cursor) : (after cursor).Follows cursor.line none :=
  Follows.scan _ _ ⟨Piece.placed_nil (Nat.le_refl _), Nat.le_refl _, List.forall_mem_nil _⟩

/-- What has been passed up to some of the comments ends where the last of them does. -/
theorem passedUpTo_placed {cursor : Cursor} {remarks : List Remark} (subset : remarks ⊆ (after cursor).remarks) :
    Piece.Placed cursor.line (passedUpTo remarks) (endOf cursor remarks).line ∧
      (endOf cursor remarks).line ≤ (after cursor).cursor.line := by
  have follows := follows_after cursor
  rw [passedUpTo, endOf]
  cases last : remarks.getLast? with
  | none => exact ⟨Piece.placed_nil (Nat.le_refl _), follows.passed.le⟩
  | some remark => exact follows.remarks remark (subset (List.mem_of_getLast? last))

end Gap

theorem gap_placed {cursor start : Cursor} {pieces : List Piece} (located : gap cursor = some (pieces, start)) :
    Piece.Placed cursor.line pieces start.line := by
  obtain ⟨rfl, rfl⟩ := gap_eq_some located
  exact (Gap.follows_after cursor).passed

theorem lexing_forward : lexing.Forward where
  gap := gap_placed
  lex := by
    intro lexeme cursor pieces start stop found
    have here : Piece.Placed cursor.line [] cursor.line := Piece.placed_nil (Nat.le_refl _)
    simp only [lexing] at found
    cases lexeme with
    | integer | float =>
      simp only [lex, Option.bind_eq_bind, Option.bind_eq_some_iff, Option.ite_none_left_eq_some, Option.some.injEq,
        Prod.mk.injEq, Prod.exists] at found
      grind [gap_placed, Cursor.line_le_advance]
    | openString =>
      simp only [lex, Option.bind_eq_bind, Option.bind_eq_some_iff, Option.some.injEq, Prod.mk.injEq, Prod.exists] at found
      obtain ⟨gap, located, _, _, _, rfl, rfl, rfl⟩ := found
      cases locate_eq_some located
      obtain ⟨placed, before⟩ := Gap.passedUpTo_placed (List.Subset.refl (Gap.after cursor).remarks)
      exact ⟨placed.to_higher before, Cursor.line_le_advance _ _⟩
    | conversion =>
      simp only [lex, Option.bind_eq_bind, Option.bind_eq_some_iff] at found
      obtain ⟨⟨comments, begun⟩, located, read⟩ := found
      grind [gap_placed, Cursor.line_le_advance]
    | stringChunk | closeString | formatText | lineEnd | indent =>
      simp only [lex, Option.bind_eq_bind, Option.bind_eq_some_iff, Option.ite_none_left_eq_some,
        Option.ite_none_right_eq_some, Option.some.injEq, Prod.mk.injEq] at found
      grind [Cursor.line_le_advance]
    | newline =>
      simp only [lex, Option.ite_none_right_eq_some, Option.some.injEq, Prod.mk.injEq] at found
      obtain ⟨_, rfl, rfl, rfl⟩ := found
      exact ⟨(Gap.passedUpTo_placed (List.takeWhile_subset _)).1, Nat.le_refl _⟩
    | dedent =>
      simp only [lex, Option.ite_none_right_eq_some, Option.some.injEq, Prod.mk.injEq] at found
      obtain ⟨_, rfl, rfl, rfl⟩ := found
      exact ⟨(Gap.passedUpTo_placed (List.takeWhile_subset _)).1, Nat.le_refl _⟩
    | endOfText =>
      simp only [lex, Option.ite_none_right_eq_some, Option.some.injEq, Prod.mk.injEq] at found
      obtain ⟨_, rfl, rfl, rfl⟩ := found
      exact ⟨(Gap.follows_after cursor).passed, Nat.le_refl _⟩

theorem orders : grammar.Orders where
  forward := lexing_forward
  forms := by
    intro form
    cases form <;> decide +kernel

theorem parse_placed {text : List Char} (unbroken : (parse text).broken = false) :
    ∃ last, Node.Placed 1 [parse text] last :=
  orders.parse (by decide) unbroken

end CallPolicy.Syntax.Python

namespace CallPolicy.Syntax.Rust

theorem gapFrom_placed {fuel : Nat} {cursor start : Cursor} {pieces : List Piece}
    (located : gapFrom fuel cursor = some (pieces, start)) : Piece.Placed cursor.line pieces start.line := by
  induction fuel generalizing cursor pieces start with
  | zero =>
    cases located
    exact Piece.placed_nil (Nat.le_refl _)
  | succ fuel ih =>
    rw [gapFrom] at located
    split at located
    · cases located
    · cases located
      exact Piece.placed_nil (Cursor.line_le_advance _ _)
    · obtain ⟨⟨comments, stop⟩, later, same⟩ := Option.map_eq_some_iff.1 located
      cases same
      exact .cons (Cursor.line_le_advance _ _) (.nil (Cursor.line_le_advance _ _)) (ih later)

theorem gap_placed {cursor start : Cursor} {pieces : List Piece} (located : gap cursor = some (pieces, start)) :
    Piece.Placed cursor.line pieces start.line :=
  gapFrom_placed located

theorem sized_placed {cursor start stop : Cursor} {length : List Char → Nat} {pieces : List Piece}
    (found : sized cursor length = some (pieces, start, stop)) :
    Piece.Placed cursor.line pieces start.line ∧ start.line ≤ stop.line := by
  obtain ⟨⟨comments, begun⟩, located, rest⟩ := Option.bind_eq_some_iff.1 found
  dsimp only at rest
  split at rest
  · cases rest
  · cases rest
    exact ⟨gap_placed located, Cursor.line_le_advance _ _⟩

theorem lexing_forward : lexing.Forward where
  gap := gap_placed
  lex := by
    intro lexeme cursor pieces start stop found
    have here : Piece.Placed cursor.line [] cursor.line := Piece.placed_nil (Nat.le_refl _)
    simp only [lexing] at found
    cases lexeme with
    | shebang =>
      rw [lex] at found
      split at found
      · cases found
      · cases found
        exact ⟨here, Cursor.line_le_advance _ _⟩
    | bracesAllowed =>
      rw [lex] at found
      split at found
      · cases found
        exact ⟨here, Nat.le_refl _⟩
      · cases found
    | endOfText =>
      obtain ⟨⟨comments, begun⟩, located, rest⟩ := Option.bind_eq_some_iff.1 found
      dsimp only at rest
      split at rest
      · cases rest
        exact ⟨gap_placed located, Nat.le_refl _⟩
      · cases rest
    | _ =>
      rw [lex] at found
      exact sized_placed found

theorem orders : grammar.Orders where
  forward := lexing_forward
  forms := by
    intro form
    cases form <;> decide +kernel

theorem parse_placed {text : List Char} (unbroken : (parse text).broken = false) :
    ∃ last, Node.Placed 1 [parse text] last :=
  orders.parse (by decide) unbroken

end CallPolicy.Syntax.Rust
