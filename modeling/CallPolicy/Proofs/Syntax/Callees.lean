import CallPolicy.Proofs.Syntax.PythonReading
import CallPolicy.Proofs.Syntax.RustReading

/-! Calls have their callees.

A call is grown from what has been read before it, and this becomes its callee. It is there if a named
part is known to stand on the left wherever a rule grows a call.
-/

set_option autoImplicit false

namespace CallPolicy.Syntax

/-- The part of a call that is called. -/
def Kind.calledPart? : Kind → Option Role
  | .call | .callExpression => some .callee
  | .macroInvocation => some .macroName
  | _ => none

/-- The node has what it calls, if it is a call. -/
def Node.CallsSomething (node : Node) : Prop :=
  ∀ role, node.kind.calledPart? = some role → ∃ called, node.child? role = some called

theorem Node.callsSomething_of_none {node : Node} (noCall : node.kind.calledPart? = none) : node.CallsSomething := by
  intro role part
  rw [noCall] at part
  cases part

variable {N L : Type}

namespace Rule

/-- Wherever the rule makes a call, a named part stands on its left and becomes what is called. -/
def callsAll (forms : N → Bool) (given : Bool) : Rule N L → Bool
  | .token kind _ => kind.all fun kind => kind.calledPart?.isNone
  | .seq first second | .alt first second => first.callsAll forms given && second.callsAll forms given
  | .many rule | .only _ rule | .append rule => rule.callsAll forms false
  | .node kind rule => kind.calledPart?.isNone && rule.callsAll forms false
  | .grow kind part rule => (kind.calledPart?.isNone || given && kind.calledPart? == part) && rule.callsAll forms false
  | .role _ rule | .under _ rule | .statement rule => rule.callsAll forms given
  | .extend head link => head.callsAll forms given && link.callsAll forms (head.leads forms given)
  | .links link => link.callsAll forms (given && link.leads forms true)
  | .empty | .fail | .hidden _ | .not _ | .ahead _ | .after _ | .ref _ => true

end Rule

/-- The rules of the grammar make no call without what is called. -/
structure Grammar.Calls (grammar : Grammar N L) (forms : N → Bool) : Prop where
  remarks : grammar.RemarksOnly
  lead : grammar.FormsLead forms
  calls : ∀ name, (grammar.rule name).callsAll forms false = true

/-- All calls in the piece have what they call. -/
def Piece.CallsAll (piece : Piece) : Prop :=
  piece.node.Obeys Node.CallsSomething

namespace Piece

theorem callsAll_leaf {kind : Kind} (noCall : kind.calledPart? = none) (named : Bool) (start stop : Cursor) :
    (leaf kind named start stop).CallsAll :=
  Node.obeys_leaf rfl (Node.callsSomething_of_none noCall)

theorem IsRemark.callsAll {piece : Piece} (remark : piece.IsRemark) : piece.CallsAll := by
  obtain ⟨start, stop, rfl⟩ := remark
  exact callsAll_leaf rfl true start stop

theorem CallsAll.withRole {piece : Piece} (calls : piece.CallsAll) (role : Role) : (piece.withRole role).CallsAll := by
  unfold Piece.withRole
  split
  · exact calls
  · obtain ⟨here, below⟩ := (Node.obeys_iff _ _).1 calls
    exact (Node.obeys_iff _ _).2 ⟨here, below⟩

/-- What stood on the left plays the part that it was given, so the call around it has what it calls. -/
theorem Leads.child? {left : List Piece} (leads : Leads left) (role : Role) (parts : List Piece) {node : Node}
    (around : node.children = ((left.map (Piece.withRole role) ++ parts).dropWhile isComment).map (·.node)) :
    ∃ called, node.child? role = some called := by
  obtain ⟨first, rest, begins, _⟩ := leads
  have isPart := List.head?_dropWhile_not isComment left
  rw [begins] at isPart
  have same : isComment ∘ Piece.withRole role = isComment := by
    funext piece
    exact piece.withRole_isComment role
  have front : (left.map (Piece.withRole role)).dropWhile isComment =
      first.withRole role :: rest.map (Piece.withRole role) := by
    rw [List.dropWhile_map, same, begins, List.map_cons]
  have plays : (first.withRole role).node.role = some role := by
    have notComment : first.isComment = false := isPart
    simp [Piece.withRole, notComment]
  refine ⟨(first.withRole role).node, ?_⟩
  rw [Node.child?, around, List.dropWhile_append, front]
  simp [plays]

end Piece

namespace Grammar.Reads

variable {grammar : Grammar N L} {rule : Rule N L} {left pieces : List Piece} {cursor stop : Cursor} {forms : N → Bool}

/-- What is added to what a rule finds on its left makes no call without what is called. -/
theorem callsAll (reads : grammar.Reads rule left cursor pieces stop) (calls : grammar.Calls forms) {given : Bool}
    (checked : rule.callsAll forms given = true) (before : given = true → Piece.Leads left)
    (leftCalls : ∀ piece ∈ left, piece.CallsAll) : ∀ piece ∈ pieces, piece.CallsAll := by
  have nothing : ∀ piece ∈ ([] : List Piece), piece.CallsAll := List.forall_mem_nil _
  induction reads generalizing given with
  | empty | manyNone | not | ahead | after => exact nothing
  | linksDone => exact leftCalls
  | @token kind terminal left pieces cursor stop read =>
    obtain ⟨comments, start, areComments, rfl⟩ := calls.remarks.token read
    rw [List.forall_mem_append, List.forall_mem_singleton]
    refine ⟨fun piece member => (areComments piece member).callsAll, Piece.callsAll_leaf ?_ _ _ _⟩
    cases kind with
    | none => rfl
    | some kind => exact Option.isNone_iff_eq_none.1 checked
  | hidden found => exact fun piece member => (calls.remarks.lex found piece member).callsAll
  | seq _ _ first second =>
    obtain ⟨here, there⟩ := Bool.and_eq_true_iff.1 checked
    exact List.forall_mem_append.2 ⟨first here before leftCalls, second there before leftCalls⟩
  | altFirst _ ih => exact ih (Bool.and_eq_true_iff.1 checked).1 before leftCalls
  | altSecond _ ih => exact ih (Bool.and_eq_true_iff.1 checked).2 before leftCalls
  | manyOnce _ ih => exact ih checked (Piece.leads_vacuously _) nothing
  | manyMore _ _ once more =>
    exact List.forall_mem_append.2 ⟨once checked (Piece.leads_vacuously _) nothing,
      @more false checked (Piece.leads_vacuously _) nothing⟩
  | node _ ih =>
    obtain ⟨noCall, inner⟩ := Bool.and_eq_true_iff.1 checked
    refine Check.Ensures.enclose_obeys (ih inner (Piece.leads_vacuously _) nothing) fun node ofKind _ => ?_
    exact Node.callsSomething_of_none (ofKind ▸ Option.isNone_iff_eq_none.1 noCall)
  | grow _ ih =>
    obtain ⟨allowed, inner⟩ := Bool.and_eq_true_iff.1 checked
    refine Check.Ensures.enclose_obeys (List.forall_mem_append.2
      ⟨leftCalls, ih inner (Piece.leads_vacuously _) nothing⟩) fun node ofKind _ => ?_
    -- Without a part to give to what is on the left, only other constructs are grown.
    have noCall : node.kind.calledPart? = none := by
      rw [ofKind]
      rcases Bool.or_eq_true_iff.1 allowed with other | grows
      · exact Option.isNone_iff_eq_none.1 other
      · exact eq_of_beq (Bool.and_eq_true_iff.1 grows).2
    exact Node.callsSomething_of_none noCall
  | @growFrom kind part rule left parts _ _ _ ih =>
    obtain ⟨allowed, inner⟩ := Bool.and_eq_true_iff.1 checked
    refine Check.Ensures.enclose_obeys (List.forall_mem_append.2
      ⟨List.forall_mem_map.2 fun piece member => (leftCalls piece member).withRole _,
        ih inner (Piece.leads_vacuously _) nothing⟩) fun node ofKind around => ?_
    rcases Bool.or_eq_true_iff.1 allowed with other | grows
    · exact Node.callsSomething_of_none (ofKind ▸ Option.isNone_iff_eq_none.1 other)
    · obtain ⟨known, samePart⟩ := Bool.and_eq_true_iff.1 grows
      intro role isCalled
      rw [ofKind, eq_of_beq samePart] at isCalled
      cases isCalled
      exact (before known).child? part parts around
  | role _ ih =>
    exact List.forall_mem_map.2 fun piece member => (ih checked before leftCalls piece member).withRole _
  | ref _ ih => exact ih (calls.calls _) (Piece.leads_vacuously _) leftCalls
  | extend here _ headCalls linkCalls =>
    obtain ⟨headChecked, linkChecked⟩ := Bool.and_eq_true_iff.1 checked
    exact linkCalls linkChecked (fun begins => here.leads calls.remarks calls.lead begins before)
      (headCalls headChecked before leftCalls)
  | linksMore here _ linkCalls restCalls =>
    have frontCalls := linkCalls checked (fun known => before (Bool.and_eq_true_iff.1 known).1) leftCalls
    refine restCalls ?_ (here.links_lead calls.remarks calls.lead before) frontCalls
    rwa [Rule.callsAll, Bool.and_assoc, Bool.and_self]
  | only _ ih => exact ih checked (Piece.leads_vacuously _) nothing
  | append _ ih => exact List.forall_mem_append.2 ⟨leftCalls, ih checked (Piece.leads_vacuously _) nothing⟩
  | under _ ih => exact ih checked before leftCalls
  | statement _ ih => exact ih checked before leftCalls

end Grammar.Reads

/-- So do all calls of a tree, also when it only tells of an error. -/
theorem Grammar.Calls.parse {grammar : Grammar N L} {forms : N → Bool} (calls : grammar.Calls forms) {root : Kind}
    {top : Rule N L} (noCall : root.calledPart? = none) (checked : top.callsAll forms false = true) (text : List Char) :
    (grammar.parse root top text).Obeys Node.CallsSomething :=
  Grammar.parse_obeys (fun _ ofKind => Node.callsSomething_of_none (ofKind ▸ noCall))
    (fun _ ofKind => Node.callsSomething_of_none (by rw [ofKind]; rfl))
    fun reads => reads.callsAll calls checked (Piece.leads_vacuously _) (List.forall_mem_nil _)

namespace Python

/-- The forms of expressions that something called can be. -/
def Form.isCalled : Form → Bool
  | atom | string | group | listDisplay | braceDisplay => true
  | _ => false

theorem calls : grammar.Calls Form.isCalled where
  remarks := lexing_remarksOnly
  lead := by
    intro form
    cases form <;> decide +kernel
  calls := by
    intro form
    cases form <;> decide +kernel

theorem parse_callsSomething (text : List Char) : (parse text).Obeys Node.CallsSomething :=
  calls.parse rfl (by decide) text

end Python

namespace Rust

/-- What is called stands where something indexed can stand. -/
theorem calls : grammar.Calls Form.isIndexed where
  remarks := lexing_remarksOnly
  lead := tidies.lead
  calls := by
    intro form
    cases form <;> decide +kernel

theorem parse_callsSomething (text : List Char) : (parse text).Obeys Node.CallsSomething :=
  calls.parse rfl (by decide) text

end Rust

end CallPolicy.Syntax
