import CallPolicy.Proofs.CallGraph.Markers
import CallPolicy.Proofs.Syntax.RustReading
import CallPolicy.Proofs.Syntax.Subtrees

/-! Which item an attribute is credited to.

An item takes its markers from the siblings before it, back to the nearest one that is neither an attribute nor
a comment. By positions among the siblings, these are the attributes with nothing else between them and the
item, so the next item ends the reach of an attribute.
-/

set_option autoImplicit false

namespace CallPolicy

open Syntax

namespace Syntax.Place

/-- Among siblings, those before a place are known, the nearest one first. -/
theorem of_siblings_getElem? {parent : Node} {earlier nodes : List Node} {position : Nat} {place : Place}
    (found : (siblings parent earlier nodes)[position]? = some place) :
    nodes[position]? = some place.node ∧ place.earlier = (nodes.take position).reverse ++ earlier := by
  induction nodes generalizing earlier position with
  | nil => simp [siblings] at found
  | cons node rest ih =>
    cases position with
    | zero =>
      rw [siblings, List.getElem?_cons_zero] at found
      cases found
      exact ⟨rfl, rfl⟩
    | succ position =>
      rw [siblings, List.getElem?_cons_succ] at found
      obtain ⟨here, before⟩ := ih found
      refine ⟨here, ?_⟩
      rw [before, List.take_succ_cons, List.reverse_cons, List.append_assoc, List.singleton_append]

end Syntax.Place

namespace Rust

/-! ### Positions -/

def kindAt (siblings : List Node) (position : Nat) : Option Syntax.Kind :=
  siblings[position]?.map (·.kind)

/-- At the position stands an attribute or a comment. -/
def PassedAt (siblings : List Node) (position : Nat) : Prop :=
  kindAt siblings position = some .attributeItem ∨ kindAt siblings position = some .comment

instance (siblings : List Node) (position : Nat) : Decidable (PassedAt siblings position) :=
  inferInstanceAs (Decidable (_ ∨ _))

/-- An attribute with nothing but attributes and comments between it and a later position. -/
structure Reaches (siblings : List Node) (mark position : Nat) : Prop where
  before : mark < position
  isAttribute : kindAt siblings mark = some .attributeItem
  between : ∀ other < position, mark < other → PassedAt siblings other

instance (siblings : List Node) (mark position : Nat) : Decidable (Reaches siblings mark position) :=
  decidable_of_iff (mark < position ∧ kindAt siblings mark = some .attributeItem ∧
      ∀ other < position, mark < other → PassedAt siblings other)
    ⟨fun ⟨before, isAttribute, between⟩ => ⟨before, isAttribute, between⟩,
      fun ⟨before, isAttribute, between⟩ => ⟨before, isAttribute, between⟩⟩

/-- The attribute reaches a struct or an enum. -/
structure Credits (siblings : List Node) (mark item : Nat) : Prop extends Reaches siblings mark item where
  isItem : kindAt siblings item = some .structItem ∨ kindAt siblings item = some .enumItem

instance (siblings : List Node) (mark item : Nat) : Decidable (Credits siblings mark item) :=
  decidable_of_iff (Reaches siblings mark item ∧
      (kindAt siblings item = some .structItem ∨ kindAt siblings item = some .enumItem))
    ⟨fun ⟨reaches, isItem⟩ => ⟨reaches, isItem⟩, fun credits => ⟨credits.toReaches, credits.isItem⟩⟩

/-- The last segment of the path of an attribute item in which no comment stands before the attribute. -/
def marker? (mark : Node) : Option String :=
  if mark.beginsClear then (Language.rust.subject? mark).map lastSegment else none

/-- The markers that the attributes at some positions give, in the order of the positions. -/
def markersAt (siblings : List Node) (positions : List Nat) : List String :=
  positions.filterMap fun position => siblings[position]?.bind marker?

/-- The markers of the attributes that are credited to an item, in source order. -/
def creditedMarkers (siblings : List Node) (item : Nat) : List String :=
  markersAt siblings ((List.range item).filter (Credits siblings · item))

theorem attributePath?_lastSegment (mark : Node) : (attributePath? mark).map lastSegment = marker? mark := by
  have same : attributePath? mark = if mark.beginsClear then Language.rust.subject? mark else none := by
    refine Option.ext fun path => ?_
    rw [attributePath?_eq_some_iff]
    cases mark.beginsClear <;> simp
  rw [same, marker?]
  split <;> rfl

namespace Reaches

variable {siblings : List Node} {mark position : Nat}

/-- One position further an attribute comes that stands there, or one that has come so far and is not stopped there. -/
theorem succ_iff : Reaches siblings mark (position + 1) ↔
    (mark = position ∧ kindAt siblings position = some .attributeItem) ∨
      (Reaches siblings mark position ∧ PassedAt siblings position) := by
  constructor
  · intro reaches
    rcases Nat.lt_succ_iff_lt_or_eq.1 reaches.before with earlier | rfl
    · exact .inr ⟨⟨earlier, reaches.isAttribute, fun other before => reaches.between other (Nat.lt_succ_of_lt before)⟩,
        reaches.between position (Nat.lt_succ_self _) earlier⟩
    · exact .inl ⟨rfl, reaches.isAttribute⟩
  · rintro (⟨rfl, isAttribute⟩ | ⟨reaches, passed⟩)
    · refine ⟨Nat.lt_succ_self _, isAttribute, fun other before after => ?_⟩
      exact absurd (Nat.le_of_lt_succ before) (Nat.not_le_of_gt after)
    · refine ⟨Nat.lt_succ_of_lt reaches.before, reaches.isAttribute, fun other before after => ?_⟩
      rcases Nat.lt_succ_iff_lt_or_eq.1 before with earlier | rfl
      · exact reaches.between other earlier after
      · exact passed

end Reaches

/-- Nothing passes an item, so what is credited to it is credited to no later one. -/
theorem Credits.not_lt {siblings : List Node} {mark item other : Nat} (credits : Credits siblings mark item)
    (later : Credits siblings mark other) : ¬ item < other := by
  intro before
  have passed := later.between item before credits.before
  rw [PassedAt] at passed
  rcases credits.isItem with isItem | isItem <;> simp [isItem] at passed

theorem Credits.unique {siblings : List Node} {mark item other : Nat} (credits : Credits siblings mark item)
    (again : Credits siblings mark other) : item = other :=
  Nat.le_antisymm (Nat.le_of_not_lt (again.not_lt credits)) (Nat.le_of_not_lt (credits.not_lt again))

/-- The attributes that reach a position. -/
def reaching (siblings : List Node) (position : Nat) : List Nat :=
  (List.range position).filter (Reaches siblings · position)

section Reaching

variable {siblings : List Node} {position : Nat}

/-- What has come so far comes further, as nothing stops it. -/
theorem filter_reaches_passed (passed : PassedAt siblings position) :
    (List.range position).filter (Reaches siblings · (position + 1)) = reaching siblings position := by
  refine List.filter_congr fun mark member => decide_eq_decide.2 ?_
  have earlier := List.mem_range.1 member
  rw [Reaches.succ_iff]
  exact ⟨fun reaches => (reaches.resolve_left fun here => absurd here.1 (Nat.ne_of_lt earlier)).1,
    fun reaches => .inr ⟨reaches, passed⟩⟩

theorem reaching_of_attribute (isAttribute : kindAt siblings position = some .attributeItem) :
    reaching siblings (position + 1) = reaching siblings position ++ [position] := by
  have reaches : Reaches siblings position (position + 1) := Reaches.succ_iff.2 (.inl ⟨rfl, isAttribute⟩)
  rw [reaching, List.range_succ, List.filter_append, filter_reaches_passed (.inl isAttribute)]
  congr 1
  exact List.filter_eq_self.2 (List.forall_mem_singleton.2 (decide_eq_true reaches))

theorem reaching_of_comment (isComment : kindAt siblings position = some .comment) :
    reaching siblings (position + 1) = reaching siblings position := by
  have stays : ¬ Reaches siblings position (position + 1) := by
    intro reaches
    have isAttribute := reaches.isAttribute
    rw [isComment] at isAttribute
    cases isAttribute
  rw [reaching, List.range_succ, List.filter_append, filter_reaches_passed (.inr isComment),
    List.filter_cons_of_neg (by simpa using stays), List.filter_nil, List.append_nil]

theorem reaching_of_stopped (stopped : ¬ PassedAt siblings position) : reaching siblings (position + 1) = [] := by
  rw [reaching, List.filter_eq_nil_iff]
  intro mark _ reaches
  rcases Reaches.succ_iff.1 (of_decide_eq_true reaches) with ⟨_, isAttribute⟩ | ⟨_, passed⟩
  · exact stopped (.inl isAttribute)
  · exact stopped passed

end Reaching

/-- What is read backward from a position is what the attributes give that reach it. -/
theorem markersBefore_take (siblings : List Node) {position : Nat} (within : position ≤ siblings.length) :
    (markersBefore (siblings.take position).reverse).reverse = markersAt siblings (reaching siblings position) := by
  induction position with
  | zero => rfl
  | succ position ih =>
    have found : siblings[position]? = some siblings[position] := List.getElem?_eq_getElem within
    have here : kindAt siblings position = some siblings[position].kind := by rw [kindAt, found, Option.map_some]
    have known := ih (Nat.le_of_succ_le within)
    -- The last sibling is the first one that is read, and it decides what becomes of those before it.
    rw [List.take_succ_eq_append_getElem within, List.reverse_append, List.reverse_singleton, List.singleton_append,
      markersBefore]
    split
    · next isAttribute =>
      rw [isAttribute] at here
      rw [List.reverse_append, known, reaching_of_attribute here, attributePath?_lastSegment, markersAt, markersAt,
        List.filterMap_append]
      congr 1
      cases given : marker? siblings[position] <;> simp [found, given]
    · next isComment =>
      rw [isComment] at here
      rw [known, reaching_of_comment here]
    · next notAttribute notComment =>
      have stopped : ¬ PassedAt siblings position := by simpa [PassedAt, here] using ⟨notAttribute, notComment⟩
      rw [reaching_of_stopped stopped]
      rfl

/-- Among its siblings a struct or an enum has the markers of what is credited to it. -/
theorem classMarkers_eq_credited {parent : Node} {siblings : List Node} {item : Nat} {place : Place}
    (found : (Place.siblings parent [] siblings)[item]? = some place)
    (isItem : place.node.kind = .structItem ∨ place.node.kind = .enumItem) :
    constructs.classMarkers place = creditedMarkers siblings item := by
  obtain ⟨here, before⟩ := Place.of_siblings_getElem? found
  obtain ⟨within, -⟩ := List.getElem?_eq_some_iff.1 here
  have kind : kindAt siblings item = some place.node.kind := by rw [kindAt, here, Option.map_some]
  -- At the item's own position nothing more is asked than that an attribute reaches it.
  have credited : (List.range item).filter (Credits siblings · item) = reaching siblings item := by
    refine List.filter_congr fun mark _ => decide_eq_decide.2 ⟨Credits.toReaches, fun reaches => ⟨reaches, ?_⟩⟩
    rw [kind, Option.some.injEq, Option.some.injEq]
    exact isItem
  show (markersBefore place.earlier).reverse = _
  rw [before, List.append_nil, markersBefore_take siblings (Nat.le_of_lt within), creditedMarkers, credited]

/-- Comments hide no attribute. -/
theorem markersBefore_uncommented (earlier : List Node) :
    markersBefore (earlier.filter (·.kind != .comment)) = markersBefore earlier := by
  induction earlier with
  | nil => rfl
  | cons sibling earlier ih =>
    by_cases comment : sibling.kind = .comment
    · rw [List.filter_cons_of_neg (by simp [comment]), ih, markersBefore]
      simp only [comment]
    · rw [List.filter_cons_of_pos (by simp [comment]), markersBefore, markersBefore, ih]

end Rust

/-! ### Attributes that are read -/

namespace Syntax

/-- The attribute item has an attribute as its first part. -/
def Node.HoldsAttribute (node : Node) : Prop :=
  node.kind = .attributeItem → ∃ held, node.firstPart? = some held ∧ held.kind = .attribute

namespace Piece

/-- Named, and no comment. -/
def isPart (piece : Piece) : Bool :=
  piece.node.named && !piece.isComment

theorem find?_isPart_dropWhile (pieces : List Piece) : (pieces.dropWhile isComment).find? isPart = pieces.find? isPart := by
  induction pieces with
  | nil => rfl
  | cons piece rest ih =>
    rw [List.dropWhile_cons]
    split
    · next comment =>
      have noPart : ¬ piece.isPart = true := by simp [isPart, comment]
      rw [ih, List.find?_cons_of_neg noPart]
    · rfl

/-- The first part of a construct is that of the pieces under it. -/
theorem firstPart?_eq {node : Node} {pieces : List Piece}
    (around : node.children = (pieces.dropWhile isComment).map (·.node)) :
    node.firstPart? = (pieces.find? isPart).map (·.node) := by
  rw [Node.firstPart?, Node.namedChildren, around, List.find?_filter, List.find?_map, ← find?_isPart_dropWhile]
  congr 2
  funext piece
  rw [Bool.eq_iff_iff]
  simp [isPart, isComment]

end Piece

namespace Grammar.Reads

variable {N L : Type} {grammar : Grammar N L} {left pieces : List Piece} {cursor stop : Cursor}

/-- An unnamed token is no part, and there are only comments before it. -/
theorem find?_token (remarks : grammar.RemarksOnly) {terminal : Terminal L}
    (reads : grammar.Reads (.token none terminal) left cursor pieces stop) : pieces.find? Piece.isPart = none := by
  cases reads with
  | token read =>
    obtain ⟨comments, start, areComments, rfl⟩ := remarks.token read
    rw [List.find?_eq_none, List.forall_mem_append, List.forall_mem_singleton]
    refine ⟨fun piece member => ?_, by simp [Piece.isPart, Piece.leaf]⟩
    obtain ⟨begun, stop, rfl⟩ := areComments piece member
    simp [Piece.isPart, Piece.isComment, Piece.leaf]

theorem find?_node {kind : Kind} (noComment : kind ≠ .comment) {rule : Rule N L}
    (reads : grammar.Reads (.node kind rule) left cursor pieces stop) :
    ∃ construct, pieces.find? Piece.isPart = some construct ∧ construct.node.kind = kind := by
  obtain ⟨comments, construct, rfl, areComments, ofKind, named⟩ := reads.node_last
  refine ⟨construct, ?_, ofKind⟩
  have front : comments.find? Piece.isPart = none :=
    List.find?_eq_none.2 fun piece member => by simp [Piece.isPart, Piece.isComment, areComments piece member]
  have isPart : construct.isPart = true := by simp [Piece.isPart, named, Piece.isComment, ofKind, noComment]
  rw [List.find?_append, front, Option.none_or, List.find?_cons_of_pos isPart]

end Grammar.Reads

namespace Rust

/-- Two tokens and then an attribute. -/
def opensAttribute : RustRule → Bool
  | .seq (.token none _) (.seq (.token none _) (.seq (.node .attribute _) _)) => true
  | _ => false

def attributeCheck : Check Form Lexeme where
  forms := fun _ => true
  plain := (· != .attributeItem)
  encloses kind rule := kind == .attributeItem && opensAttribute rule

theorem find?_opensAttribute {rule : RustRule} (opens : opensAttribute rule = true) {left pieces : List Piece}
    {cursor stop : Cursor} (reads : grammar.Reads rule left cursor pieces stop) :
    ∃ construct, pieces.find? Piece.isPart = some construct ∧ construct.node.kind = .attribute := by
  unfold opensAttribute at opens
  split at opens
  · cases reads with
    | seq first rest =>
      cases rest with
      | seq second rest =>
        cases rest with
        | seq body more =>
          obtain ⟨construct, found, ofKind⟩ := body.find?_node (by decide)
          refine ⟨construct, ?_, ofKind⟩
          rw [List.find?_append, first.find?_token lexing_remarksOnly, Option.none_or, List.find?_append,
            second.find?_token lexing_remarksOnly, Option.none_or, List.find?_append, found, Option.some_or]
  · cases opens

theorem attributeCheck_ensures : attributeCheck.Ensures grammar Node.HoldsAttribute where
  remarks := lexing_remarksOnly
  comment node ofKind leaf := by
    intro isItem
    rw [ofKind] at isItem
    cases isItem
  role node role lawful := lawful
  plain node plain := fun isItem => absurd isItem (bne_iff_ne.1 plain)
  encloses := by
    intro kind rule cursor pieces stop encloses reads _ node _ around _
    obtain ⟨construct, found, ofKind⟩ := find?_opensAttribute (Bool.and_eq_true_iff.1 encloses).2 reads
    refine ⟨construct.node, ?_, ofKind⟩
    rw [Piece.firstPart?_eq around, found, Option.map_some]
  forms := by
    intro form _
    cases form <;> decide +kernel

theorem parse_holdsAttribute (text : List Char) : (parse text).Obeys Node.HoldsAttribute :=
  attributeCheck_ensures.parse (by decide) (by decide) (by decide +kernel) text

/-- Every attribute item of a text has a path. -/
theorem subject?_of_parse {text : List Char} {mark : Node} (member : mark ∈ (parse text).preorder)
    (isItem : mark.kind = .attributeItem) :
    ∃ path, Language.rust.subject? mark = some path ∧ path.isComment = false := by
  obtain ⟨held, first, isAttribute⟩ := parse_holdsAttribute text mark member isItem
  have tidy := ((parse_tidy text).1.obeys mark member).named held (List.mem_of_find?_eq_some first)
  obtain ⟨path, rest, parts, noComment⟩ := tidy.led (by rw [isAttribute]; rfl)
  refine ⟨path, ?_, noComment⟩
  rw [Language.subject?, first, Option.filter_some_pos (by simp [isAttribute])]
  simp [parts]

end Rust

end Syntax

/-! ### Outlines -/

namespace Syntax

namespace Occurrence

variable {tree : Node} {outer inner : Occurrence}

/-- What occurs in a tree below its root stands at a position among the named children of another occurrence. -/
theorem position_of_mem_everywhere (member : inner ∈ tree.everywhere) :
    inner = whole tree ∨ ∃ outer ∈ tree.everywhere, ∃ position : Nat,
      (Place.siblings outer.place.node [] outer.place.node.namedChildren)[position]? = some inner.place := by
  rcases parent_of_mem_spread (proper_whole tree) member with same | ⟨outer, outerMember, child⟩
  · exact .inl same
  · have placed : inner.place ∈ outer.place.children := by
      rw [← children_places]
      exact List.mem_map_of_mem child
    exact .inr ⟨outer, outerMember, List.mem_iff_getElem?.1 placed⟩

theorem child_mem_preorder (member : outer ∈ tree.everywhere) {child : Node}
    (isChild : child ∈ outer.place.node.namedChildren) : child ∈ tree.preorder := by
  rw [← children_nodes] at isChild
  obtain ⟨inner, innerMember, rfl⟩ := List.mem_map.1 isChild
  exact Node.node_mem_preorder (Node.children_subset_everywhere member innerMember)

end Occurrence

end Syntax

namespace Rust

theorem className_eq_some_iff {node : Node} {name : String} :
    constructs.className node = some name ↔
      (node.kind = .structItem ∨ node.kind = .enumItem) ∧ nameOf node = some name := by
  show (if (node.kind == .structItem || node.kind == .enumItem) = true then nameOf node else none) = some name ↔ _
  rw [Option.ite_none_right_eq_some, Bool.or_eq_true, beq_iff_eq, beq_iff_eq]

/-- A class of an outline stands among siblings, and its markers are those of what is credited to it there. -/
theorem outlined_class {tree : Node} (noItem : ¬ (tree.kind = .structItem ∨ tree.kind = .enumItem)) {listed : ClassOutline}
    (member : listed ∈ (outlineTree constructs tree).classes) :
    ∃ outer ∈ tree.everywhere, ∃ item node, outer.place.node.namedChildren[item]? = some node ∧
      nameOf node = some listed.name ∧ node.line = listed.line ∧
      listed.markers = creditedMarkers outer.place.node.namedChildren item := by
  rw [constructs.outline_classes] at member
  obtain ⟨occurrence, outside, listedFor⟩ := List.mem_filterMap.1 member
  have occurs : occurrence ∈ tree.everywhere := List.mem_of_mem_filter outside
  rw [Constructs.outlinedClass?, Option.ite_none_left_eq_some, Option.map_eq_some_iff] at listedFor
  obtain ⟨_, name, isClass, rfl⟩ := listedFor
  obtain ⟨isItem, named⟩ := className_eq_some_iff.1 isClass
  rcases Occurrence.position_of_mem_everywhere occurs with rfl | ⟨outer, outerOccurs, item, found⟩
  · -- Only the root has no siblings.
    exact absurd isItem noItem
  · obtain ⟨here, -⟩ := Place.of_siblings_getElem? found
    exact ⟨outer, outerOccurs, item, _, here, named, rfl, classMarkers_eq_credited found isItem⟩

theorem parse_kind (text : List Char) : (Rust.parse text).kind = .construct "source_file" := by
  unfold Rust.parse Grammar.parse
  dsimp only
  split <;> rfl

/-- What is credited to an item is an attribute item at that position. -/
theorem Credits.mark_mem {siblings : List Node} {mark item : Nat} (credits : Credits siblings mark item) :
    ∃ node ∈ siblings, siblings[mark]? = some node ∧ node.kind = .attributeItem := by
  obtain ⟨node, found, isAttribute⟩ := Option.map_eq_some_iff.1 credits.isAttribute
  exact ⟨node, List.mem_of_getElem? found, found, isAttribute⟩

end Rust

/-- Among any siblings, the markers of a struct or an enum are those of the attributes with nothing but attributes
and comments between them and the item, in source order; so no attribute is credited to two items, and comments
before an item make no difference. The classes that outlines of units list are items among siblings, and each
attribute that is credited to one has a path, whose last segment is its marker unless a comment stands before it. -/
theorem attributes_credited_once :
    (∀ (parent : Node) (siblings : List Node) (item : Nat) (place : Place),
      (Place.siblings parent [] siblings)[item]? = some place →
      place.node.kind = .structItem ∨ place.node.kind = .enumItem →
      Rust.constructs.classMarkers place = Rust.creditedMarkers siblings item) ∧
    (∀ (siblings : List Node) (mark item other : Nat),
      Rust.Credits siblings mark item → Rust.Credits siblings mark other → item = other) ∧
    (∀ place other : Place, place.earlier.filter (·.kind != .comment) = other.earlier.filter (·.kind != .comment) →
      Rust.constructs.classMarkers place = Rust.constructs.classMarkers other) ∧
    ∀ (text : String) (tree : Node), checkedTree ⟨.rust, text⟩ = .ok tree →
      ∃ outlined : ModuleOutline, outline ⟨.rust, text⟩ = .ok outlined ∧
        ∀ listed ∈ outlined.classes, ∃ parent ∈ tree.preorder, ∃ item node,
          parent.namedChildren[item]? = some node ∧ nameOf node = some listed.name ∧ node.line = listed.line ∧
          listed.markers = Rust.creditedMarkers parent.namedChildren item ∧
          ∀ mark, Rust.Credits parent.namedChildren mark item → ∃ sibling path,
            parent.namedChildren[mark]? = some sibling ∧ Language.rust.subject? sibling = some path ∧
            path.isComment = false ∧
            Rust.marker? sibling = if sibling.beginsClear then some (Rust.lastSegment path) else none := by
  refine ⟨fun parent siblings item place => Rust.classMarkers_eq_credited,
    fun siblings mark item other => Rust.Credits.unique, fun place other same => ?_, ?_⟩
  · show (Rust.markersBefore place.earlier).reverse = (Rust.markersBefore other.earlier).reverse
    rw [← Rust.markersBefore_uncommented place.earlier, same, Rust.markersBefore_uncommented]
  · intro text tree parsed
    refine ⟨_, outline_of_checkedTree parsed, fun listed member => ?_⟩
    have same : tree = Rust.parse text.toList := checkedTree_eq_ok parsed
    subst same
    have noItem : ¬ ((Rust.parse text.toList).kind = .structItem ∨ (Rust.parse text.toList).kind = .enumItem) := by
      simp [Rust.parse_kind]
    obtain ⟨outer, occurs, item, node, here, named, line, markers⟩ := Rust.outlined_class noItem member
    refine ⟨_, Node.node_mem_preorder occurs, item, node, here, named, line, markers, fun mark credits => ?_⟩
    obtain ⟨sibling, isSibling, found, isAttribute⟩ := credits.mark_mem
    obtain ⟨path, subject, noComment⟩ :=
      Syntax.Rust.subject?_of_parse (Occurrence.child_mem_preorder occurs isSibling) isAttribute
    exact ⟨sibling, path, found, subject, noComment, by rw [Rust.marker?, subject, Option.map_some]⟩

/-- Two attributes with a comment between them, one that a comment obscures, and one behind a function. -/
def notedText : String :=
  "#[a]\n// note\n#[m::enforce(x)]\nstruct S;\n#[/* c */ b]\n#[c]\nenum E \x7b\x7d\n#[d]\nfn f() \x7b\x7d\nstruct T;\n"

theorem attributes_of_noted :
    ∃ tree outlined, checkedTree ⟨.rust, notedText⟩ = .ok tree ∧ outline ⟨.rust, notedText⟩ = .ok outlined ∧
      outlined.classes = [⟨"S", 4, ["a", "enforce"]⟩, ⟨"E", 7, ["c"]⟩, ⟨"T", 10, []⟩] ∧
      (∀ listed ∈ outlined.classes, ∃ parent ∈ tree.preorder, ∃ item,
        listed.markers = Rust.creditedMarkers parent.namedChildren item) ∧
      Rust.creditedMarkers tree.namedChildren 3 = ["a", "enforce"] ∧
      ∀ other, Rust.Credits tree.namedChildren 2 other → other = 3 := by
  -- One evaluation reads the text for all that is asked of its tree.
  obtain ⟨readable, classes, here, credits⟩ : (parse ⟨.rust, notedText⟩).firstErrorLine = none ∧
      (outlineTree Rust.constructs (parse ⟨.rust, notedText⟩)).classes =
        [⟨"S", 4, ["a", "enforce"]⟩, ⟨"E", 7, ["c"]⟩, ⟨"T", 10, []⟩] ∧
      (∃ place ∈ (Place.siblings (parse ⟨.rust, notedText⟩) [] (parse ⟨.rust, notedText⟩).namedChildren)[3]?,
        place.node.kind = .structItem ∧ Rust.constructs.classMarkers place = ["a", "enforce"]) ∧
      Rust.Credits (parse ⟨.rust, notedText⟩).namedChildren 2 3 := by decide +kernel
  have parsed : checkedTree ⟨.rust, notedText⟩ = .ok (parse ⟨.rust, notedText⟩) := by rw [checkedTree, readable]
  obtain ⟨ofPlaces, once, _, ofTexts⟩ := attributes_credited_once
  obtain ⟨outlined, outlines, each⟩ := ofTexts notedText _ parsed
  obtain ⟨place, found, isStruct, markers⟩ := here
  have same : outlined = outlineTree Rust.constructs (parse ⟨.rust, notedText⟩) :=
    Except.ok.inj (outlines.symm.trans (outline_of_checkedTree parsed))
  refine ⟨_, outlined, parsed, outlines, same ▸ classes, fun listed member => ?_, ?_, fun other again => ?_⟩
  · obtain ⟨parent, inTree, item, _, _, _, _, credited, _⟩ := each listed member
    exact ⟨parent, inTree, item, credited⟩
  · exact (ofPlaces _ _ 3 place found (.inl isStruct)).symm.trans markers
  · exact once _ 2 other 3 again credits

end CallPolicy
