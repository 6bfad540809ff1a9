import CallPolicy.Proofs.CallGraph.Definitions

/-! Decorators and attributes, and the markers that they give to a class.

A decorator names its marker by the last segment of its expression, an attribute by that of its path.
Either is only read where no comment stands before it.
-/

set_option autoImplicit false

namespace CallPolicy

open Syntax

/-! ### First parts -/

namespace Syntax.Node

/-- The first part of a construct; comments are no parts. -/
def firstPart? (node : Node) : Option Node :=
  node.namedChildren.find? (·.kind != .comment)

/-- No comment stands before the first part. -/
def beginsClear (node : Node) : Bool :=
  node.namedChildren.head?.all (·.kind != .comment)

theorem head?_eq_firstPart? {node : Node} (clear : node.beginsClear = true) :
    node.namedChildren.head? = node.firstPart? := by
  unfold beginsClear at clear
  unfold firstPart?
  cases listed : node.namedChildren with
  | nil => rfl
  | cons first rest =>
    have isPart : (first.kind != .comment) = true := by simpa [listed] using clear
    rw [List.head?_cons, List.find?_cons, isPart]

theorem head?_of_obscured {node : Node} (obscured : node.beginsClear = false) :
    ∃ comment, node.namedChildren.head? = some comment ∧ comment.kind = .comment := by
  unfold beginsClear at obscured
  cases found : node.namedChildren.head? with
  | none => simp [found] at obscured
  | some first =>
    rw [found] at obscured
    exact ⟨first, rfl, by simpa using obscured⟩

theorem size_le_sizes {node : Node} {nodes : List Node} (member : node ∈ nodes) : node.size ≤ sizes nodes := by
  induction nodes with
  | nil => cases member
  | cons first rest ih =>
    rw [sizes]
    rcases List.mem_cons.1 member with rfl | later
    · exact Nat.le_add_right _ _
    · exact Nat.le_trans (ih later) (Nat.le_add_left _ _)

theorem size_lt_of_mem_children {node child : Node} (member : child ∈ node.children) : child.size < node.size := by
  rw [size_eq node]
  exact Nat.lt_succ_of_le (size_le_sizes member)

theorem size_lt_of_child? {node child : Node} {role : Role} (found : node.child? role = some child) :
    child.size < node.size :=
  size_lt_of_mem_children (List.mem_of_find?_eq_some found)

end Syntax.Node

/-! ### Last segments -/

namespace Python

/-- The last dotted segment of an expression; that of a call is the one of its callee. -/
inductive LastSegment : Node → String → Prop where
  | name {node : Node} : node.kind = .identifier → LastSegment node node.text
  | member {node last : Node} : node.kind = .member → node.child? .attribute = some last →
    LastSegment node last.text
  | call {node callee : Node} {segment : String} : node.kind = .call → node.child? .callee = some callee →
    LastSegment callee segment → LastSegment node segment

theorem decoratorName_eq_some_iff {fuel : Nat} {node : Node} (enough : node.size ≤ fuel) (segment : String) :
    decoratorName fuel node = some segment ↔ LastSegment node segment := by
  induction fuel generalizing node with
  | zero =>
    have positive := node.size_pos
    omega
  | succ fuel ih =>
    have callee_enough : ∀ callee, node.child? .callee = some callee → callee.size ≤ fuel := by
      intro callee found
      have smaller := Node.size_lt_of_child? found
      omega
    constructor
    · intro named
      rw [decoratorName] at named
      split at named
      · next isName =>
        cases named
        exact .name isName
      · next isMember =>
        obtain ⟨last, found, rfl⟩ := Option.map_eq_some_iff.1 named
        exact .member isMember found
      · next isCall =>
        obtain ⟨callee, found, inner⟩ := Option.bind_eq_some_iff.1 named
        exact .call isCall found ((ih (callee_enough callee found)).1 inner)
      · cases named
    · intro last
      rw [decoratorName]
      cases last with
      | name isName => simp only [isName]
      | member isMember found => simp only [isMember, found, Option.map_some]
      | call isCall found inner =>
        simp only [isCall, found, Option.bind_some]
        exact (ih (callee_enough _ found)).2 inner

instance (node : Node) (segment : String) : Decidable (LastSegment node segment) :=
  decidable_of_iff (decoratorName node.size node = some segment) (decoratorName_eq_some_iff (Nat.le_refl _) segment)

end Python

namespace Language

/-! ### Marks -/

/-- The decorators, or attributes, of what stands at a place. Attributes belong to an item unless
something other than attributes and comments lies between them. -/
def marks : Language → Place → List Node
  | python, place => ((Python.decorated? place).map (·.namedChildren.filter (·.kind == .decorator))).getD []
  | rust, place =>
    (place.earlier.takeWhile fun sibling => sibling.kind == .attributeItem || sibling.kind == .comment).filter
      (·.kind == .attributeItem)

/-- The expression of a decorator, or the path of an attribute. -/
def subject? : Language → Node → Option Node
  | python, mark => mark.firstPart?
  | rust, mark => (mark.firstPart?.filter (·.kind == .attribute)).bind (·.namedChildren.head?)

def EndsIn : Language → Node → String → Prop
  | python, expression, segment => Python.LastSegment expression segment
  | rust, path, segment => Rust.lastSegment path = segment

instance (language : Language) (node : Node) (segment : String) : Decidable (language.EndsIn node segment) :=
  match language with
  | python => inferInstanceAs (Decidable (Python.LastSegment node segment))
  | rust => inferInstanceAs (Decidable (Rust.lastSegment node = segment))

/-- The expression or path of the mark ends in the marker. -/
def Marks (language : Language) (mark : Node) (marker : String) : Prop :=
  ∃ subject ∈ language.subject? mark, language.EndsIn subject marker

instance (language : Language) (mark : Node) (marker : String) : Decidable (language.Marks mark marker) :=
  inferInstanceAs (Decidable (∃ subject ∈ language.subject? mark, language.EndsIn subject marker))

/-- What stands at the place has a mark with the marker. -/
def Carries (language : Language) (place : Place) (marker : String) : Prop :=
  ∃ mark ∈ language.marks place, language.Marks mark marker

instance (language : Language) (place : Place) (marker : String) : Decidable (language.Carries place marker) :=
  inferInstanceAs (Decidable (∃ mark ∈ language.marks place, language.Marks mark marker))

/-- It has one in which no comment stands before the expression or path. -/
def Shows (language : Language) (place : Place) (marker : String) : Prop :=
  ∃ mark ∈ language.marks place, mark.beginsClear = true ∧ language.Marks mark marker

instance (language : Language) (place : Place) (marker : String) : Decidable (language.Shows place marker) :=
  inferInstanceAs (Decidable (∃ mark ∈ language.marks place, mark.beginsClear = true ∧ language.Marks mark marker))

end Language

/-! ### Markers -/

namespace Python

theorem not_lastSegment_of_comment {node : Node} {segment : String} (comment : node.kind = .comment) :
    ¬ LastSegment node segment := by
  intro last
  cases last <;> simp_all

theorem mem_classMarkers_iff (place : Place) (marker : String) :
    marker ∈ constructs.classMarkers place ↔ Language.python.Shows place marker := by
  have read : ∀ mark : Node, (mark.namedChildren.head?.bind fun expression => decoratorName expression.size expression) =
      some marker ↔ mark.beginsClear = true ∧ Language.python.Marks mark marker := by
    intro mark
    cases clear : mark.beginsClear with
    | true =>
      rw [Node.head?_eq_firstPart? clear, Option.bind_eq_some_iff]
      simp only [decoratorName_eq_some_iff (Nat.le_refl _), true_and]
      rfl
    | false =>
      obtain ⟨comment, first, isComment⟩ := Node.head?_of_obscured clear
      rw [first, Option.bind_some, decoratorName_eq_some_iff (Nat.le_refl _)]
      simp [not_lastSegment_of_comment isComment]
  show marker ∈ ((decorated? place).map markersOf).getD [] ↔ _
  cases decorated : decorated? place with
  | none => simp [Language.Shows, Language.marks, decorated]
  | some parent =>
    simp only [Language.Shows, Language.marks, decorated, Option.map_some, Option.getD_some, markersOf,
      List.mem_filterMap, read]

end Python

namespace Rust

/-- The attribute items between an item and the nearest sibling before it that is neither one nor a
comment give the markers, as far as they can be read. -/
theorem markersBefore_eq (earlier : List Node) :
    markersBefore earlier = (((earlier.takeWhile fun sibling => sibling.kind == .attributeItem || sibling.kind == .comment).filter
      (·.kind == .attributeItem)).filterMap attributePath?).map lastSegment := by
  induction earlier with
  | nil => rfl
  | cons sibling earlier ih =>
    rw [markersBefore]
    split
    · next isAttribute =>
      rw [ih]
      cases path : attributePath? sibling <;> simp [isAttribute, path]
    · next isComment => simpa [isComment] using ih
    · next other comment =>
      have stops : (sibling.kind == .attributeItem || sibling.kind == .comment) = false := by
        simpa using ⟨other, comment⟩
      rw [List.takeWhile_cons_of_neg (by simp [stops])]
      rfl

theorem attributePath?_eq_some_iff (mark path : Node) :
    attributePath? mark = some path ↔ mark.beginsClear = true ∧ Language.rust.subject? mark = some path := by
  unfold attributePath?
  cases clear : mark.beginsClear with
  | true =>
    rw [Node.head?_eq_firstPart? clear, Language.subject?]
    cases mark.firstPart? with
    | none => simp
    | some first => by_cases isAttribute : first.kind = .attribute <;> simp [Option.filter, isAttribute]
  | false =>
    obtain ⟨comment, first, isComment⟩ := Node.head?_of_obscured clear
    simp [first, isComment]

theorem mem_classMarkers_iff (place : Place) (marker : String) :
    marker ∈ constructs.classMarkers place ↔ Language.rust.Shows place marker := by
  show marker ∈ (markersBefore place.earlier).reverse ↔ _
  rw [List.mem_reverse, markersBefore_eq, List.mem_map]
  simp only [List.mem_filterMap, attributePath?_eq_some_iff]
  constructor
  · rintro ⟨path, ⟨mark, member, clear, subject⟩, last⟩
    exact ⟨mark, member, clear, path, subject, last⟩
  · rintro ⟨mark, member, clear, path, subject, last⟩
    exact ⟨path, ⟨mark, member, clear, subject⟩, last⟩

end Rust

theorem mem_classMarkers_iff (language : Language) (place : Place) (marker : String) :
    marker ∈ language.constructs.classMarkers place ↔ language.Shows place marker := by
  cases language with
  | python => exact Python.mem_classMarkers_iff place marker
  | rust => exact Rust.mem_classMarkers_iff place marker

end CallPolicy
