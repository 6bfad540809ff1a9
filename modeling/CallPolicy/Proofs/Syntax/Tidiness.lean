import CallPolicy.Proofs.Syntax.Comments
import CallPolicy.Proofs.Syntax.Reading
import Mathlib.Data.List.TakeWhile

/-! Where comments stand in the trees that a grammar reads.

A comment plays no part, and nothing in it is looked for. It may come first in what is read, but a construct is put
behind the comments before it. What a rule leaves to its left decides whether a construct that grows to
the right begins with a named part; a look at the rules tells which of them leave one there.
-/

set_option autoImplicit false

namespace CallPolicy.Syntax

/-! ### Tidy trees -/

/-- The constructs of which an analysis takes the first named part for an expression or a path. -/
def Kind.isLed (kind : Kind) : Bool :=
  kind == .indexExpression || kind == .attribute

/-- The kinds of nodes that neither call nor import nor define anything. -/
def Kind.isIdle : Kind → Bool
  | .comment | .error | .punctuation | .construct _ => true
  | _ => false

namespace Node

/-- Nothing in a comment calls, imports or defines anything. Comments play no part, and they do not come first
where the first part counts. -/
inductive Tidy : Node → Prop where
  | intro {node : Node} : (node.isComment = true → node.Obeys (·.kind.isIdle = true)) →
    (∀ child ∈ node.children, child.isComment = true → child.role = none) →
    (node.kind.isLed = true → ∃ first rest, node.namedChildren = first :: rest ∧ first.isComment = false) →
    (∀ child ∈ node.children, child.Tidy) → node.Tidy

namespace Tidy

variable {node : Node}

theorem idle (tidy : node.Tidy) (comment : node.isComment = true) : node.Obeys (·.kind.isIdle = true) := by
  cases tidy with
  | intro idle _ _ _ => exact idle comment

theorem noRole (tidy : node.Tidy) : ∀ child ∈ node.children, child.isComment = true → child.role = none := by
  cases tidy with
  | intro _ noRole _ _ => exact noRole

theorem led (tidy : node.Tidy) (isLed : node.kind.isLed = true) :
    ∃ first rest, node.namedChildren = first :: rest ∧ first.isComment = false := by
  cases tidy with
  | intro _ _ led _ => exact led isLed

theorem children (tidy : node.Tidy) : ∀ child ∈ node.children, child.Tidy := by
  cases tidy with
  | intro _ _ _ below => exact below

theorem named (tidy : node.Tidy) : ∀ child ∈ node.namedChildren, child.Tidy :=
  fun child member => tidy.children child (List.mem_of_mem_filter member)

/-- All of a tidy tree is tidy. -/
theorem obeys (tidy : node.Tidy) : node.Obeys Tidy := by
  induction tidy with
  | @intro node idle noRole led below ih =>
    refine (obeys_iff _ _).2 ⟨.intro idle noRole led below, fun child member => ?_⟩
    exact ih child (List.mem_of_mem_filter member)

/-- What stands in a comment calls, imports and defines nothing. -/
theorem idle_of_everywhere (tidy : node.Tidy) {occurrence : Occurrence} (member : occurrence ∈ node.everywhere)
    (inside : occurrence.outsideComments = false) : occurrence.place.node.kind.isIdle = true := by
  rw [Occurrence.outsideComments, List.all_eq_false] at inside
  obtain ⟨comment, isLineage, isComment⟩ := inside
  obtain ⟨outer, outerMember, rfl, spread⟩ := outer_of_mem_lineage member isLineage
  have tidyOuter := tidy.obeys _ (node_mem_preorder outerMember)
  exact tidyOuter.idle (by simpa using isComment) _ (Occurrence.node_mem_preorder spread)

/-- What is read off the nodes of a tree is read off the tree without comments, if it is the same for each node and
nothing for those that neither call nor import nor define anything. -/
theorem flatMap_stripped {α : Type} {read : Node → List α} (tidy : node.Tidy) (noComment : node.isComment = false)
    (same : ∀ inner ∈ node.preorder, read inner.stripped = read inner)
    (idle : ∀ inner : Node, inner.kind.isIdle = true → read inner = []) :
    node.stripped.preorder.flatMap read = node.preorder.flatMap read := by
  rw [← everywhere_nodes, ← everywhere_nodes, List.flatMap_map, List.flatMap_map, everywhere_stripped noComment]
  refine flatMap_image (fun occurrence member _ => ?_) fun occurrence member inside => ?_
  · exact same _ (node_mem_preorder member)
  · exact idle _ (tidy.idle_of_everywhere member inside)

/-- Parts with a role are no comments, so they are the same parts without comments. -/
theorem child?_stripped (tidy : node.Tidy) (role : Role) :
    node.stripped.child? role = (node.child? role).map stripped := by
  rw [child?, child?, stripped_children]
  refine find?_image (fun child _ _ => by rw [stripped_role]) fun child member comment => ?_
  rw [tidy.noRole child member (by simpa using comment)]
  rfl

theorem childrenIn_stripped (tidy : node.Tidy) (role : Role) :
    node.stripped.childrenIn role = (node.childrenIn role).map stripped := by
  have same : (fun child : Node => child.role == some role) ∘ stripped = fun child => child.role == some role := by
    funext child
    rw [Function.comp_apply, stripped_role]
  rw [childrenIn, childrenIn, stripped_children, List.filter_map, same, List.filter_comm]
  congr 1
  refine List.filter_eq_self.2 fun child member => ?_
  obtain ⟨member, plays⟩ := List.mem_filter.1 member
  cases comment : child.isComment with
  | false => rfl
  | true =>
    rw [tidy.noRole child member comment] at plays
    cases plays

theorem of_child? (tidy : node.Tidy) {role : Role} {child : Node} (found : node.child? role = some child) : child.Tidy :=
  tidy.children child (List.mem_of_find?_eq_some found)

theorem of_leaf (none : node.children = []) (notLed : node.kind.isLed = false) : node.Tidy :=
  .intro (fun comment => (obeys_iff _ _).2 ⟨by rw [eq_of_beq comment]; rfl, by simp [namedChildren, none]⟩) (by simp [none])
    (by simp [notLed]) (by simp [none])

end Tidy

end Node

/-! ### What comes first -/

variable {N L : Type}

namespace Piece

/-- The first of the pieces that is no comment is there, and it is named. -/
def Leads (pieces : List Piece) : Prop :=
  ∃ first rest, pieces.dropWhile isComment = first :: rest ∧ first.node.named = true

/-- Nothing but comments. -/
def Silent (pieces : List Piece) : Prop :=
  ∀ piece ∈ pieces, piece.isComment = true

/-- Where no named part is known to stand on the left, there is nothing to show. -/
theorem leads_vacuously (left : List Piece) (known : false = true) : Leads left :=
  absurd known Bool.false_ne_true

theorem Leads.append {pieces : List Piece} (leads : Leads pieces) (more : List Piece) : Leads (pieces ++ more) := by
  obtain ⟨first, rest, begins, named⟩ := leads
  exact ⟨first, rest ++ more, by rw [List.dropWhile_append, begins]; rfl, named⟩

theorem Leads.after_silent {pieces : List Piece} (leads : Leads pieces) {earlier : List Piece} (silent : Silent earlier) :
    Leads (earlier ++ pieces) := by
  have nothing : earlier.dropWhile isComment = [] := List.dropWhile_eq_nil_iff.2 silent
  rwa [Leads, List.dropWhile_append, nothing]

@[simp]
theorem withRole_isComment (role : Role) (piece : Piece) : (piece.withRole role).isComment = piece.isComment := by
  unfold withRole
  split <;> rfl

@[simp]
theorem withRole_named (role : Role) (piece : Piece) : (piece.withRole role).node.named = piece.node.named := by
  unfold withRole
  split <;> rfl

theorem Leads.withRole {pieces : List Piece} (leads : Leads pieces) (role : Role) :
    Leads (pieces.map (Piece.withRole role)) := by
  obtain ⟨first, rest, begins, named⟩ := leads
  have same : isComment ∘ Piece.withRole role = isComment := by
    funext piece
    exact piece.withRole_isComment role
  refine ⟨first.withRole role, rest.map (Piece.withRole role), ?_, by rw [withRole_named, named]⟩
  rw [List.dropWhile_map, same, begins, List.map_cons]

/-- A construct stands right after the comments before it. -/
theorem leads_enclose {kind : Kind} (noComment : kind ≠ .comment) (cursor : Cursor) (pieces : List Piece) :
    Leads (enclose kind cursor pieces) := by
  obtain ⟨construct, same, ofKind, named, _⟩ := enclose_eq kind cursor pieces
  have front : (pieces.takeWhile isComment).dropWhile isComment = [] :=
    List.dropWhile_eq_nil_iff.2 fun piece member => List.all_eq_true.1 List.all_takeWhile piece member
  have notComment : construct.isComment = false := by simpa [isComment, ofKind] using noComment
  refine ⟨construct, [], ?_, named⟩
  rw [same, List.dropWhile_append, front]
  simp [notComment]

end Piece

namespace Rule

/-- The rule reads nothing but comments. -/
def silent : Rule N L → Bool
  | .empty | .fail | .hidden _ | .not _ | .ahead _ | .after _ => true
  | .seq first second => first.silent && second.silent
  | _ => false

/-- The rule, where what is on its left begins with a named part if this is `given`, reads something that
does. The forms that do so wherever they stand are known. -/
def leads (forms : N → Bool) (given : Bool) : Rule N L → Bool
  | .fail => true
  | .token kind _ => kind.any (· != .comment)
  | .seq first second => first.leads forms given || (first.silent && second.leads forms given)
  | .alt first second => first.leads forms given && second.leads forms given
  | .node kind _ | .grow kind _ _ => kind != .comment
  | .role _ rule | .under _ rule | .statement rule => rule.leads forms given
  | .ref name => forms name
  | .extend head link => link.leads forms (head.leads forms given)
  | .links link => given && link.leads forms true
  | .only _ rule => rule.leads forms false
  | .append _ => given
  | _ => false

end Rule

/-- Each form that is said to begin with a named part does so. -/
def Grammar.FormsLead (grammar : Grammar N L) (forms : N → Bool) : Prop :=
  ∀ name, forms name = true → (grammar.rule name).leads forms false = true

namespace Grammar.Reads

variable {grammar : Grammar N L} {rule : Rule N L} {left pieces : List Piece} {cursor stop : Cursor} {forms : N → Bool}

theorem silent (reads : grammar.Reads rule left cursor pieces stop) (remarks : grammar.RemarksOnly) (quiet : rule.silent = true) :
    Piece.Silent pieces := by
  induction reads with
  | hidden found =>
    intro piece member
    obtain ⟨start, stop, rfl⟩ := remarks.lex found piece member
    rfl
  | seq _ _ first second =>
    obtain ⟨here, there⟩ := Bool.and_eq_true_iff.1 quiet
    exact List.forall_mem_append.2 ⟨first here, second there⟩
  | empty | not | ahead | after => exact List.forall_mem_nil _
  | _ => cases quiet

theorem leads (reads : grammar.Reads rule left cursor pieces stop) (remarks : grammar.RemarksOnly) (lead : grammar.FormsLead forms)
    {given : Bool} (begins : rule.leads forms given = true) (before : given = true → Piece.Leads left) :
    Piece.Leads pieces := by
  induction reads generalizing given with
  | @token kind terminal left pieces cursor stop read =>
    obtain ⟨comments, start, areComments, rfl⟩ := remarks.token read
    obtain ⟨named, known, noComment⟩ : ∃ named, kind = some named ∧ named ≠ .comment := by
      simpa [Rule.leads, Option.any_eq_true] using begins
    subst known
    refine Piece.Leads.after_silent ⟨_, [], List.dropWhile_cons_of_neg ?_, rfl⟩ ?_
    · simpa [Piece.leaf, Piece.isComment] using noComment
    · intro piece member
      obtain ⟨start, stop, rfl⟩ := areComments piece member
      rfl
  | seq first second firstLeads secondLeads =>
    rcases Bool.or_eq_true_iff.1 begins with here | there
    · exact (firstLeads here before).append _
    · obtain ⟨quiet, there⟩ := Bool.and_eq_true_iff.1 there
      exact (secondLeads there before).after_silent (first.silent remarks quiet)
  | altFirst _ ih => exact ih (Bool.and_eq_true_iff.1 begins).1 before
  | altSecond _ ih => exact ih (Bool.and_eq_true_iff.1 begins).2 before
  | node | grow | growFrom => exact Piece.leads_enclose (bne_iff_ne.1 begins) _ _
  | role _ ih => exact (ih begins before).withRole _
  | ref _ ih => exact ih (lead _ begins) (Piece.leads_vacuously _)
  | extend _ _ headLeads linkLeads => exact linkLeads begins fun headBegins => headLeads headBegins before
  | linksDone => exact before (Bool.and_eq_true_iff.1 begins).1
  | linksMore _ _ linkLeads restLead =>
    obtain ⟨known, keeps⟩ := Bool.and_eq_true_iff.1 begins
    have again := linkLeads keeps fun _ => before known
    exact @restLead true (by rw [Rule.leads, keeps]; rfl) fun _ => again
  | only _ ih => exact ih begins (Piece.leads_vacuously _)
  | append => exact (before begins).append _
  | under _ ih => exact ih begins before
  | statement _ ih => exact ih begins before
  | _ => cases begins

/-- A link leaves a named part in front for the next one if it finds one and keeps it. -/
theorem links_lead {link : Rule N L} (reads : grammar.Reads link left cursor pieces stop) (remarks : grammar.RemarksOnly)
    (lead : grammar.FormsLead forms) {given : Bool} (before : given = true → Piece.Leads left)
    (keeps : (given && link.leads forms true) = true) : Piece.Leads pieces := by
  obtain ⟨known, begins⟩ := Bool.and_eq_true_iff.1 keeps
  exact reads.leads remarks lead begins fun _ => before known

end Grammar.Reads

/-! ### What is read is tidy -/

namespace Piece

/-- The piece is a tidy tree, and plays no part if it is a comment. -/
structure Fit (piece : Piece) : Prop where
  tidy : piece.node.Tidy
  noRole : piece.isComment = true → piece.node.role = none

theorem fit_leaf {kind : Kind} (notLed : kind.isLed = false) (named : Bool) (start stop : Cursor) :
    (leaf kind named start stop).Fit :=
  ⟨.of_leaf rfl notLed, fun _ => rfl⟩

theorem IsRemark.fit {piece : Piece} (remark : piece.IsRemark) : piece.Fit := by
  obtain ⟨start, stop, rfl⟩ := remark
  exact fit_leaf rfl true start stop

theorem Fit.withRole {piece : Piece} (fit : piece.Fit) (role : Role) : (piece.withRole role).Fit := by
  unfold Piece.withRole
  cases comment : piece.isComment with
  | true => rwa [if_pos rfl]
  | false =>
    rw [if_neg Bool.false_ne_true]
    refine ⟨?_, fun isComment => ?_⟩
    · have tidy := fit.tidy
      refine .intro (fun isComment => ?_) tidy.noRole tidy.led tidy.children
      have same : piece.isComment = true := isComment
      rw [same] at comment
      cases comment
    · have same : piece.isComment = true := isComment
      rw [same] at comment
      cases comment

/-- A construct around fit pieces is tidy if a named part comes first where this counts. -/
theorem tidy_around {node : Node} {pieces : List Piece} (around : node.children = pieces.map (·.node))
    (noComment : node.isComment = false) (fits : ∀ piece ∈ pieces, piece.Fit)
    (led : node.kind.isLed = true →
      ∃ first rest, pieces = first :: rest ∧ first.node.named = true ∧ first.isComment = false) : node.Tidy := by
  have parts : ∀ child ∈ node.children, ∃ piece ∈ pieces, piece.node = child := by
    intro child member
    rw [around] at member
    exact List.mem_map.1 member
  refine .intro (fun comment => ?_) ?_ (fun isLed => ?_) ?_
  · rw [comment] at noComment
    cases noComment
  · intro child member isComment
    obtain ⟨piece, found, rfl⟩ := parts child member
    exact (fits piece found).noRole isComment
  · obtain ⟨first, rest, rfl, named, isPart⟩ := led isLed
    refine ⟨first.node, (rest.map (·.node)).filter (·.named), ?_, isPart⟩
    rw [Node.namedChildren, around, List.map_cons, List.filter_cons_of_pos named]
  · intro child member
    obtain ⟨piece, found, rfl⟩ := parts child member
    exact (fits piece found).tidy

theorem fit_enclose {kind : Kind} (noComment : kind ≠ .comment) (cursor : Cursor) {pieces : List Piece}
    (fits : ∀ piece ∈ pieces, piece.Fit) (led : kind.isLed = true → Leads pieces) :
    ∀ piece ∈ enclose kind cursor pieces, piece.Fit := by
  obtain ⟨construct, same, ofKind, _, children⟩ := enclose_eq kind cursor pieces
  have notComment : construct.isComment = false := by simpa [isComment, ofKind] using noComment
  have inside : ∀ piece ∈ pieces.dropWhile isComment, piece.Fit :=
    fun piece member => fits piece (List.dropWhile_subset _ member)
  rw [same, List.forall_mem_append, List.forall_mem_singleton]
  refine ⟨fun piece member => fits piece (List.takeWhile_subset _ member), ?_, fun comment => ?_⟩
  · refine tidy_around children notComment inside fun isLed => ?_
    obtain ⟨first, rest, begins, named⟩ := led (ofKind ▸ isLed)
    have isPart := List.head?_dropWhile_not isComment pieces
    rw [begins] at isPart
    exact ⟨first, rest, begins, named, isPart⟩
  · rw [comment] at notComment
    cases notComment

end Piece

/-- The rule encloses nothing as a comment, and nothing without a named part in front where this counts. -/
def Rule.tidy (forms : N → Bool) (given : Bool) : Rule N L → Bool
  | .token kind _ => kind.all fun kind => kind != .comment && !kind.isLed
  | .seq first second | .alt first second => first.tidy forms given && second.tidy forms given
  | .many rule | .only _ rule | .append rule => rule.tidy forms false
  | .node kind rule => kind != .comment && rule.tidy forms false && (!kind.isLed || rule.leads forms false)
  | .grow kind _ rule => kind != .comment && rule.tidy forms false && (!kind.isLed || given)
  | .role _ rule | .under _ rule | .statement rule => rule.tidy forms given
  | .extend head link => head.tidy forms given && link.tidy forms (head.leads forms given)
  | .links link => link.tidy forms (given && link.leads forms true)
  | .empty | .fail | .hidden _ | .not _ | .ahead _ | .after _ | .ref _ => true

/-- The rules of the grammar pass for tidy ones. -/
structure Grammar.Tidies (grammar : Grammar N L) (forms : N → Bool) : Prop where
  remarks : grammar.RemarksOnly
  lead : grammar.FormsLead forms
  tidy : ∀ name, (grammar.rule name).tidy forms false = true

namespace Grammar.Reads

variable {grammar : Grammar N L} {rule : Rule N L} {left pieces : List Piece} {cursor stop : Cursor} {forms : N → Bool}

theorem fit (reads : grammar.Reads rule left cursor pieces stop) (tidies : grammar.Tidies forms) {given : Bool}
    (tidy : rule.tidy forms given = true) (before : given = true → Piece.Leads left) (fits : ∀ piece ∈ left, piece.Fit) :
    ∀ piece ∈ pieces, piece.Fit := by
  have nothing : ∀ piece ∈ ([] : List Piece), piece.Fit := List.forall_mem_nil _
  induction reads generalizing given with
  | empty | manyNone | not | ahead | after => exact nothing
  | linksDone => exact fits
  | @token kind terminal left pieces cursor stop read =>
    obtain ⟨comments, start, areComments, rfl⟩ := tidies.remarks.token read
    rw [List.forall_mem_append, List.forall_mem_singleton]
    refine ⟨fun piece member => (areComments piece member).fit, Piece.fit_leaf ?_ _ _ _⟩
    cases kind with
    | none => rfl
    | some kind => simpa using (Bool.and_eq_true_iff.1 tidy).2
  | hidden found => exact fun piece member => (tidies.remarks.lex found piece member).fit
  | seq _ _ first second =>
    obtain ⟨here, there⟩ := Bool.and_eq_true_iff.1 tidy
    exact List.forall_mem_append.2 ⟨first here before fits, second there before fits⟩
  | altFirst _ ih => exact ih (Bool.and_eq_true_iff.1 tidy).1 before fits
  | altSecond _ ih => exact ih (Bool.and_eq_true_iff.1 tidy).2 before fits
  | manyOnce _ ih => exact ih tidy (Piece.leads_vacuously _) nothing
  | manyMore _ _ once more =>
    exact List.forall_mem_append.2 ⟨once tidy (Piece.leads_vacuously _) nothing,
      @more false tidy (Piece.leads_vacuously _) nothing⟩
  | node inside ih =>
    obtain ⟨checked, ledChecked⟩ := Bool.and_eq_true_iff.1 tidy
    obtain ⟨noComment, inner⟩ := Bool.and_eq_true_iff.1 checked
    refine Piece.fit_enclose (bne_iff_ne.1 noComment) _ (ih inner (Piece.leads_vacuously _) nothing) fun isLed => ?_
    rw [isLed, Bool.not_true, Bool.false_or] at ledChecked
    exact inside.leads tidies.remarks tidies.lead ledChecked (Piece.leads_vacuously _)
  | grow _ ih =>
    obtain ⟨checked, ledChecked⟩ := Bool.and_eq_true_iff.1 tidy
    obtain ⟨noComment, inner⟩ := Bool.and_eq_true_iff.1 checked
    refine Piece.fit_enclose (bne_iff_ne.1 noComment) _
      (List.forall_mem_append.2 ⟨fits, ih inner (Piece.leads_vacuously _) nothing⟩) fun isLed => ?_
    rw [isLed, Bool.not_true, Bool.false_or] at ledChecked
    exact (before ledChecked).append _
  | growFrom _ ih =>
    obtain ⟨checked, ledChecked⟩ := Bool.and_eq_true_iff.1 tidy
    obtain ⟨noComment, inner⟩ := Bool.and_eq_true_iff.1 checked
    refine Piece.fit_enclose (bne_iff_ne.1 noComment) _ (List.forall_mem_append.2
      ⟨List.forall_mem_map.2 fun piece member => (fits piece member).withRole _,
        ih inner (Piece.leads_vacuously _) nothing⟩) fun isLed => ?_
    rw [isLed, Bool.not_true, Bool.false_or] at ledChecked
    exact ((before ledChecked).withRole _).append _
  | role _ ih => exact List.forall_mem_map.2 fun piece member => (ih tidy before fits piece member).withRole _
  | ref _ ih => exact ih (tidies.tidy _) (Piece.leads_vacuously _) fits
  | extend here _ headFits linkFits =>
    obtain ⟨headTidy, linkTidy⟩ := Bool.and_eq_true_iff.1 tidy
    exact linkFits linkTidy (fun begins => here.leads tidies.remarks tidies.lead begins before)
      (headFits headTidy before fits)
  | linksMore here _ linkFits restFit =>
    have frontFits := linkFits tidy (fun known => before (Bool.and_eq_true_iff.1 known).1) fits
    refine restFit ?_ (here.links_lead tidies.remarks tidies.lead before) frontFits
    rwa [Rule.tidy, Bool.and_assoc, Bool.and_self]
  | only _ ih => exact ih tidy (Piece.leads_vacuously _) nothing
  | append _ ih => exact List.forall_mem_append.2 ⟨fits, ih tidy (Piece.leads_vacuously _) nothing⟩
  | under _ ih => exact ih tidy before fits
  | statement _ ih => exact ih tidy before fits

end Grammar.Reads

theorem Grammar.Tidies.parse {grammar : Grammar N L} {forms : N → Bool} (tidies : grammar.Tidies forms) {root : Kind}
    {top : Rule N L} (noComment : root ≠ .comment) (notLed : root.isLed = false) (tidy : top.tidy forms false = true)
    (text : List Char) : (grammar.parse root top text).Tidy ∧ (grammar.parse root top text).isComment = false := by
  have notComment : (root == .comment) = false := by simpa using noComment
  rcases grammar.parse_cases root top text with ⟨pieces, stop, reads, same⟩ | ⟨line, same⟩ <;> rw [same]
  · have fits := reads.fit tidies tidy (Piece.leads_vacuously _) (List.forall_mem_nil _)
    refine ⟨Piece.tidy_around rfl notComment fits fun isLed => ?_, notComment⟩
    rw [isLed] at notLed
    cases notLed
  · refine ⟨.intro (fun comment => ?_) ?_ (fun isLed => ?_) ?_, notComment⟩
    · exact absurd (notComment.symm.trans comment) Bool.false_ne_true
    · intro child member _
      rw [List.mem_singleton.1 member]
    · exact absurd (notLed.symm.trans isLed) Bool.false_ne_true
    · intro child member
      rw [List.mem_singleton.1 member]
      exact .of_leaf rfl rfl

end CallPolicy.Syntax
