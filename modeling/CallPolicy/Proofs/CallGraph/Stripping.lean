import CallPolicy.Proofs.CallGraph.Markers
import CallPolicy.Proofs.Syntax.PythonReading
import CallPolicy.Proofs.Syntax.RustReading

/-! What the two languages read from a tree and from the same tree without comments.

Names, callees and the imports of Python are found by the parts that children play, and no comment plays
one. The use trees of Rust, decorators and attribute items are read by position: there a comment can be
taken for what should have been read.
-/

set_option autoImplicit false

namespace CallPolicy

open Syntax

variable {node : Node}

theorem nameOf_stripped (tidy : node.Tidy) : nameOf node.stripped = nameOf node := by
  rw [nameOf, nameOf, tidy.child?_stripped, Node.text_of_stripped?]

/-! ### First parts -/

namespace Syntax.Node

theorem head?_stripped (clear : node.beginsClear = true) :
    node.stripped.namedChildren.head? = node.namedChildren.head?.map stripped := by
  rw [head?_eq_firstPart? clear, stripped_namedChildren, List.head?_map, List.head?_filter]
  rfl

theorem Tidy.beginsClear_of_led (tidy : node.Tidy) (led : node.kind.isLed = true) : node.beginsClear = true := by
  obtain ⟨first, rest, listed, isPart⟩ := tidy.led led
  rw [beginsClear, listed]
  simpa [isComment] using isPart

theorem filter_kind_stripped {kind : Kind} (noComment : kind ≠ .comment) (node : Node) :
    node.stripped.namedChildren.filter (·.kind == kind) = (node.namedChildren.filter (·.kind == kind)).map stripped := by
  have same : (fun child : Node => child.kind == kind) ∘ stripped = fun child => child.kind == kind := by
    funext child
    rw [Function.comp_apply, stripped_kind]
  rw [stripped_namedChildren, List.filter_map, same, List.filter_comm]
  congr 1
  refine List.filter_eq_self.2 fun child member => ?_
  have ofKind : child.kind = kind := by simpa using (List.mem_filter.1 member).2
  simpa [isComment, ofKind] using noComment

/-- Induction on a tree together with the tree without comments, within bounds on their sizes. -/
theorem stripped_induction {motive : Nat → Nat → Node → Prop}
    (step : ∀ fuel other (node : Node),
      (∀ child ∈ node.children, child.stripped ∈ node.stripped.children → motive fuel other child) →
        motive (fuel + 1) (other + 1) node)
    (fuel other : Nat) (node : Node) (enough : node.size ≤ fuel) (otherEnough : node.stripped.size ≤ other) :
    motive fuel other node := by
  induction fuel generalizing other node with
  | zero =>
    have positive := node.size_pos
    omega
  | succ fuel ih =>
    cases other with
    | zero =>
      have positive := node.stripped.size_pos
      omega
    | succ other =>
      apply step
      intro child member strippedMember
      have smaller := size_lt_of_mem_children member
      have otherSmaller := size_lt_of_mem_children strippedMember
      apply ih
      · omega
      · omega

end Syntax.Node

/-! ### Callees -/

/-- The step in the tree without comments. -/
def BaseStep.stripped : BaseStep → BaseStep
  | named text => named text
  | down node => down node.stripped
  | unresolved => unresolved

theorem BaseStep.ofChild_stripped (child : Option Node) : ofChild (child.map Node.stripped) = (ofChild child).stripped := by
  cases child <;> rfl

/-- A step goes on to a child, and does not look at comments. -/
structure Steps (step : Node → BaseStep) : Prop where
  falls : ∀ {node next}, step node = .down next → next ∈ node.children
  overlooks : ∀ {node : Node}, node.Tidy → step node.stripped = (step node).stripped

theorem followBase_stripped {step : Node → BaseStep} (steps : Steps step) {fuel other : Nat} (tidy : node.Tidy)
    (enough : node.size ≤ fuel) (otherEnough : node.stripped.size ≤ other) :
    followBase step other node.stripped = followBase step fuel node := by
  revert tidy
  refine Node.stripped_induction (motive := fun fuel other node =>
    node.Tidy → followBase step other node.stripped = followBase step fuel node) ?_ fuel other node enough otherEnough
  intro fuel other node ih tidy
  have taken := steps.overlooks tidy
  rw [followBase, followBase, taken]
  cases next : step node with
  | named text => rfl
  | unresolved => rfl
  | down child =>
    rw [next] at taken
    have member := steps.falls next
    exact ih child member (steps.falls taken) (tidy.children child member)

theorem BaseStep.of_ofChild {child : Option Node} {next : Node} (goes : ofChild child = .down next) :
    child = some next := by
  cases child with
  | none => cases goes
  | some found =>
    cases goes
    rfl

theorem child?_mem {role : Role} {next : Node} (goes : BaseStep.ofChild (node.child? role) = .down next) :
    next ∈ node.children :=
  List.mem_of_find?_eq_some (BaseStep.of_ofChild goes)

namespace Python

theorem baseStep_steps : Steps baseStep where
  falls goes := by
    unfold baseStep at goes
    split at goes
    · cases goes
    · exact child?_mem goes
    · exact child?_mem goes
    · exact child?_mem goes
    · cases goes
  overlooks tidy := by
    unfold baseStep
    rw [Node.stripped_kind]
    split
    · rw [Node.stripped_text]
      rfl
    · rw [tidy.child?_stripped, BaseStep.ofChild_stripped]
    · rw [tidy.child?_stripped, BaseStep.ofChild_stripped]
    · rw [tidy.child?_stripped, BaseStep.ofChild_stripped]
    · rfl

theorem callTarget_stripped (tidy : node.Tidy) : constructs.callTarget node.stripped = constructs.callTarget node := by
  simp only [constructs, Node.stripped_kind, tidy.child?_stripped, Option.map_map]
  split
  · cases found : node.child? .callee with
    | none => rfl
    | some callee =>
      exact congrArg some (followBase_stripped baseStep_steps (tidy.of_child? found) (Nat.le_refl _) (Nat.le_refl _))
  · rfl

/-- The statements of Python that import are read by the parts of their children. -/
theorem imports_stripped (tidy : node.Tidy) : imports node.stripped = imports node := by
  unfold imports
  rw [Node.stripped_kind]
  split
  · rw [tidy.childrenIn_stripped, List.filterMap_map]
    refine List.filterMap_congr fun name member => ?_
    have nameTidy := tidy.children name (List.mem_of_mem_filter member)
    rw [Function.comp_apply, Node.stripped_kind, Node.stripped_text, nameOf_stripped nameTidy]
  · rw [tidy.child?_stripped, Node.text_of_stripped?]
  · rfl
  · rfl

end Python

namespace Rust

theorem baseStep_steps : Steps baseStep where
  falls goes := by
    unfold baseStep at goes
    split at goes
    any_goals first | cases goes | exact child?_mem goes
    · rcases Option.or_eq_some_iff.1 (BaseStep.of_ofChild goes) with found | ⟨_, found⟩
      · exact List.mem_of_find?_eq_some found
      · exact List.mem_of_find?_eq_some found
    · exact List.mem_of_mem_filter (List.mem_of_head? (BaseStep.of_ofChild goes))
  overlooks tidy := by
    unfold baseStep
    rw [Node.stripped_kind]
    split
    any_goals first | rw [Node.stripped_text]; rfl | rw [tidy.child?_stripped, BaseStep.ofChild_stripped]
    · rw [tidy.child?_stripped, tidy.child?_stripped, ← Option.map_or, BaseStep.ofChild_stripped]
    · next indexed =>
      rw [Node.head?_stripped (tidy.beginsClear_of_led (by rw [indexed]; rfl)), BaseStep.ofChild_stripped]
    · rfl

theorem lastSegment_stripped (tidy : node.Tidy) : lastSegment node.stripped = lastSegment node := by
  rw [lastSegment, lastSegment, Node.stripped_kind, nameOf_stripped tidy, Node.stripped_text]

theorem callTarget_stripped (tidy : node.Tidy) : callTarget node.stripped = callTarget node := by
  unfold callTarget
  rw [Node.stripped_kind]
  split
  · rw [tidy.child?_stripped, Option.map_map]
    cases found : node.child? .callee with
    | none => rfl
    | some callee =>
      exact congrArg some (followBase_stripped baseStep_steps (tidy.of_child? found) (Nat.le_refl _) (Nat.le_refl _))
  · rw [tidy.child?_stripped, Option.map_map]
    cases found : node.child? .macroName with
    | none => rfl
    | some path => exact congrArg (fun name => some (name ++ "!")) (lastSegment_stripped (tidy.of_child? found))
  · rfl

/-! ### Use trees -/

/-- The reading of a use tree takes a comment for a path: one in a list that it reads, or one before
the star of a wildcard. -/
inductive MeetsComment : Node → Prop where
  | entry {list comment : Node} : list.kind = .useList → comment ∈ list.namedChildren → comment.kind = .comment →
    MeetsComment list
  | inside {list tree : Node} : list.kind = .useList → tree ∈ list.namedChildren → MeetsComment tree → MeetsComment list
  | group {rooted list : Node} : rooted.kind = .useScopedList → rooted.child? .path = none →
    rooted.child? .list = some list → MeetsComment list → MeetsComment rooted
  | star {wildcard : Node} : wildcard.kind = .useWildcard → wildcard.beginsClear = false → MeetsComment wildcard

/-- Whether the reading of a use tree meets a comment. -/
def meetsComment : Nat → Node → Bool
  | 0, _ => false
  | fuel + 1, node =>
    match node.kind with
    | .useList => node.namedChildren.any fun tree => tree.kind == .comment || meetsComment fuel tree
    | .useScopedList => (node.child? .path).isNone && (node.child? .list).any (meetsComment fuel)
    | .useWildcard => !node.beginsClear
    | _ => false

theorem meetsComment_iff {fuel : Nat} (enough : node.size ≤ fuel) : meetsComment fuel node = true ↔ MeetsComment node := by
  induction fuel generalizing node with
  | zero =>
    have positive := node.size_pos
    omega
  | succ fuel ih =>
    have smaller : ∀ child ∈ node.children, child.size ≤ fuel := by
      intro child member
      have less := Node.size_lt_of_mem_children member
      omega
    constructor
    · intro meets
      rw [meetsComment] at meets
      split at meets
      · next isList =>
        obtain ⟨tree, member, found⟩ := List.any_eq_true.1 meets
        rcases Bool.or_eq_true_iff.1 found with comment | inner
        · exact .entry isList member (eq_of_beq comment)
        · exact .inside isList member ((ih (smaller tree (List.mem_of_mem_filter member))).1 inner)
      · next isGroup =>
        obtain ⟨noPath, found⟩ := Bool.and_eq_true_iff.1 meets
        obtain ⟨list, listed, inner⟩ := (Option.any_eq_true _ _).1 found
        have known := List.mem_of_find?_eq_some listed
        exact .group isGroup (Option.isNone_iff_eq_none.1 noPath) listed ((ih (smaller list known)).1 inner)
      · next isWildcard => exact .star isWildcard (by simpa using meets)
      · cases meets
    · intro meets
      rw [meetsComment]
      cases meets with
      | entry isList member comment =>
        simp only [isList]
        exact List.any_eq_true.2 ⟨_, member, by simp [comment]⟩
      | inside isList member inner =>
        simp only [isList]
        have known := (ih (smaller _ (List.mem_of_mem_filter member))).2 inner
        exact List.any_eq_true.2 ⟨_, member, by simp [known]⟩
      | group isGroup noPath found inner =>
        have known := (ih (smaller _ (List.mem_of_find?_eq_some found))).2 inner
        simp [isGroup, noPath, found, known]
      | star isWildcard obscured => simp [isWildcard, obscured]

instance (node : Node) : Decidable (MeetsComment node) :=
  decidable_of_iff (meetsComment node.size node = true) (meetsComment_iff (Nat.le_refl _))

theorem usePaths_stripped {fuel other : Nat} (tidy : node.Tidy) (meets : ¬ MeetsComment node) (enough : node.size ≤ fuel)
    (otherEnough : node.stripped.size ≤ other) : usePaths other node.stripped = usePaths fuel node := by
  revert tidy meets
  refine Node.stripped_induction (motive := fun fuel other node =>
    node.Tidy → ¬ MeetsComment node → usePaths other node.stripped = usePaths fuel node) ?_ fuel other node enough otherEnough
  intro fuel other node ih tidy meets
  rw [usePaths, usePaths, Node.stripped_kind]
  split
  · rw [tidy.child?_stripped, Node.text_of_stripped?]
  · next isGroup =>
    rw [tidy.child?_stripped]
    cases noPath : node.child? .path with
    | some path => exact congrArg (fun text => [text]) path.stripped_text
    | none =>
      have listFound := tidy.child?_stripped .list
      rw [listFound]
      cases found : node.child? .list with
      | none => rfl
      | some list =>
        rw [found, Option.map_some] at listFound
        exact ih list (List.mem_of_find?_eq_some found) (List.mem_of_find?_eq_some listFound) (tidy.of_child? found)
          fun inner => meets (.group isGroup noPath found inner)
  · next isList =>
    rw [Node.stripped_namedChildren]
    refine flatMap_image (fun tree member _ => ?_) fun tree member kept => ?_
    · next kept =>
      have child := List.mem_of_mem_filter member
      exact ih tree child (Node.stripped_mem_children child (by simpa using kept)) (tidy.children tree child)
        fun inner => meets (.inside isList member inner)
    · exact absurd (.entry isList member (by simpa [Node.isComment] using kept)) meets
  · next isWildcard =>
    have clear : node.beginsClear = true := by
      rw [← Bool.not_eq_false]
      exact fun obscured => meets (.star isWildcard obscured)
    rw [Node.head?_stripped clear]
    cases node.namedChildren.head? with
    | none => rfl
    | some path => exact congrArg (fun text => [text]) path.stripped_text
  · rw [Node.stripped_text]

/-- The declaration names a use tree whose reading meets a comment. -/
def ReadsComment (declaration : Node) : Prop :=
  declaration.kind = .useDeclaration ∧ ∃ tree ∈ declaration.child? .argument, MeetsComment tree

instance (declaration : Node) : Decidable (ReadsComment declaration) :=
  inferInstanceAs (Decidable (_ ∧ ∃ tree ∈ declaration.child? .argument, MeetsComment tree))

theorem imports_stripped (tidy : node.Tidy) (reads : ¬ ReadsComment node) : imports node.stripped = imports node := by
  unfold imports
  rw [Node.stripped_kind]
  split
  · next isUse =>
    rw [tidy.child?_stripped, Option.map_map]
    cases found : node.child? .argument with
    | none => rfl
    | some tree =>
      have meets : ¬ MeetsComment tree := fun met => reads ⟨isUse, tree, found, met⟩
      exact usePaths_stripped (tidy.of_child? found) meets (Nat.le_refl _) (Nat.le_refl _)
  · rw [nameOf_stripped tidy]
  · rfl

end Rust

/-! ### Marks -/

namespace Python

theorem decoratorName_stripped {fuel other : Nat} (tidy : node.Tidy) (enough : node.size ≤ fuel)
    (otherEnough : node.stripped.size ≤ other) : decoratorName other node.stripped = decoratorName fuel node := by
  revert tidy
  refine Node.stripped_induction (motive := fun fuel other node =>
    node.Tidy → decoratorName other node.stripped = decoratorName fuel node) ?_ fuel other node enough otherEnough
  intro fuel other node ih tidy
  rw [decoratorName, decoratorName, Node.stripped_kind]
  split
  · rw [Node.stripped_text]
  · rw [tidy.child?_stripped, Node.text_of_stripped?]
  · have calleeFound := tidy.child?_stripped .callee
    rw [calleeFound]
    cases found : node.child? .callee with
    | none => rfl
    | some callee =>
      rw [found, Option.map_some] at calleeFound
      exact ih callee (List.mem_of_find?_eq_some found) (List.mem_of_find?_eq_some calleeFound) (tidy.of_child? found)
  · rfl

theorem decorated?_stripped (place : Place) : decorated? place.stripped = (decorated? place).map Node.stripped := by
  rw [decorated?, decorated?, Place.stripped]
  cases place.parent with
  | none => rfl
  | some parent =>
    simp only [Option.map_some, Option.filter, Node.stripped_kind]
    split <;> rfl

/-- The marker that a decorator gives. -/
def markerOf (decorator : Node) : Option String :=
  decorator.namedChildren.head?.bind fun expression => decoratorName expression.size expression

theorem markerOf_stripped (tidy : node.Tidy) (clear : node.beginsClear = true) : markerOf node.stripped = markerOf node := by
  rw [markerOf, markerOf, Node.head?_stripped clear]
  cases first : node.namedChildren.head? with
  | none => rfl
  | some expression =>
    have expressionTidy := tidy.named expression (List.mem_of_head? first)
    exact decoratorName_stripped expressionTidy (Nat.le_refl _) (Nat.le_refl _)

theorem classMarkers_eq (place : Place) :
    constructs.classMarkers place = (Language.python.marks place).filterMap markerOf := by
  show ((decorated? place).map markersOf).getD [] = _
  rw [Language.marks]
  cases decorated? place <;> rfl

end Python

namespace Rust

/-- The marker that an attribute item gives. -/
def markerOf (item : Node) : Option String :=
  (attributePath? item).map lastSegment

theorem markerOf_stripped (tidy : node.Tidy) (clear : node.beginsClear = true) : markerOf node.stripped = markerOf node := by
  rw [markerOf, markerOf, attributePath?, attributePath?, Node.head?_stripped clear]
  cases first : node.namedChildren.head? with
  | none => rfl
  | some part =>
    have partTidy := tidy.named part (List.mem_of_head? first)
    simp only [Option.map_some, Node.stripped_kind]
    split
    · next isAttribute =>
      have led : part.kind.isLed = true := by simp [Kind.isLed, eq_of_beq isAttribute]
      rw [Node.head?_stripped (partTidy.beginsClear_of_led led)]
      cases path : part.namedChildren.head? with
      | none => rfl
      | some path => exact congrArg some (lastSegment_stripped (partTidy.named _ (List.mem_of_head? path)))
    · rfl

theorem classMarkers_eq (place : Place) :
    constructs.classMarkers place = ((Language.rust.marks place).filterMap markerOf).reverse := by
  show (markersBefore place.earlier).reverse = _
  rw [markersBefore_eq, List.map_filterMap]
  rfl

end Rust

namespace Language

theorem marks_stripped (language : Language) (place : Place) :
    language.marks place.stripped = (language.marks place).map Node.stripped := by
  cases language with
  | python =>
    rw [marks, marks, Python.decorated?_stripped]
    cases Python.decorated? place with
    | none => rfl
    | some parent => exact Node.filter_kind_stripped (by decide) parent
  | rust =>
    rw [marks, marks, Place.stripped]
    induction place.earlier with
    | nil => rfl
    | cons sibling rest ih =>
      cases comment : sibling.isComment with
      | true =>
        have isComment : sibling.kind = .comment := eq_of_beq comment
        simpa [comment, isComment] using ih
      | false =>
        have noComment : sibling.kind ≠ .comment := by simpa [Node.isComment] using comment
        by_cases isAttribute : sibling.kind = .attributeItem
        · simpa [comment, isAttribute] using ih
        · simp [comment, isAttribute, noComment]

/-- The marks of a class stand in its parent or before it. -/
theorem marks_within {language : Language} {property : Node → Prop} {occurrence : Occurrence}
    (inherited : ∀ node, property node → ∀ child ∈ node.namedChildren, property child)
    (within : occurrence.Within property) : ∀ mark ∈ language.marks occurrence.place, property mark := by
  intro mark member
  cases language with
  | python =>
    rw [marks] at member
    cases decorated : Python.decorated? occurrence.place with
    | none =>
      rw [decorated] at member
      cases member
    | some parent =>
      rw [decorated] at member
      have isParent := (Option.filter_eq_some_iff.1 decorated).1
      rw [within.parent] at isParent
      exact inherited parent (within.around parent (List.mem_of_head? isParent)) mark (List.mem_of_mem_filter member)
  | rust => exact within.earlier mark (List.takeWhile_subset _ (List.mem_of_mem_filter member))

theorem classMarkers_stripped (language : Language) {place : Place} (tidy : ∀ mark ∈ language.marks place, mark.Tidy)
    (clear : ∀ mark ∈ language.marks place, mark.beginsClear = true) :
    language.constructs.classMarkers place.stripped = language.constructs.classMarkers place := by
  cases language with
  | python =>
    show Python.constructs.classMarkers _ = Python.constructs.classMarkers _
    rw [Python.classMarkers_eq, Python.classMarkers_eq, marks_stripped, List.filterMap_map]
    exact List.filterMap_congr fun mark member => Python.markerOf_stripped (tidy mark member) (clear mark member)
  | rust =>
    show Rust.constructs.classMarkers _ = Rust.constructs.classMarkers _
    rw [Rust.classMarkers_eq, Rust.classMarkers_eq, marks_stripped, List.filterMap_map]
    congr 1
    exact List.filterMap_congr fun mark member => Rust.markerOf_stripped (tidy mark member) (clear mark member)

end Language

end CallPolicy
