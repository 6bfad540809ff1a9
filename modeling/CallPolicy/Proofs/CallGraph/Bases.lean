import CallPolicy.Proofs.CallGraph.CallEntries
import Mathlib.Logic.Relation

/-! The base of a callee.

Each expression has one chain of bases, which goes down to smaller and smaller parts of it. What it ends
in gives the name of a call, so the name stays the same whatever accesses, subscripts and calls are put
around a callee.
-/

set_option autoImplicit false

namespace CallPolicy

open Syntax

namespace Language

/-! ### Chains of bases -/

/-- The part of an expression that is its base. -/
def basePart? : Language → Syntax.Kind → Option Role
  | .python, .member => some .object
  | .python, .call => some .callee
  | .python, .subscript => some .value
  | .rust, .scopedIdentifier => some .path
  | .rust, .fieldExpression => some .value
  | .rust, .callExpression => some .callee
  | .rust, .genericFunction => some .callee
  | .rust, .genericType => some .base
  | _, _ => none

/-- A link in a chain of bases. A scoped name without a path goes on with the name itself; the parts of
an index expression have no roles, and the value that is indexed comes first. -/
inductive Base : Language → Node → Node → Prop where
  | part {language : Language} {node base : Node} {role : Role} : language.basePart? node.kind = some role →
    node.child? role = some base → Base language node base
  | unqualified {node base : Node} : node.kind = .scopedIdentifier → node.child? .path = none →
    node.child? .name = some base → Base .rust node base
  | indexed {node base : Node} : node.kind = .indexExpression → node.firstPart? = some base → Base .rust node base

/-- The kinds of names that can be the base of a callee. -/
def isBaseName : Language → Syntax.Kind → Bool
  | .python, kind => kind == .identifier
  | .rust, kind => [.identifier, .typeIdentifier, .selfPath, .cratePath, .superPath].contains kind

/-- The end of the chain of bases of an expression. -/
structure Bottom (language : Language) (node bottom : Node) : Prop where
  chain : Relation.ReflTransGen language.Base node bottom
  last : ∀ base, ¬ language.Base bottom base

/-- In each index expression of the chain of bases, no comment stands before the value. -/
def IndexesClear (language : Language) (node : Node) : Prop :=
  ∀ inner, Relation.ReflTransGen language.Base node inner → inner.kind = .indexExpression → inner.beginsClear = true

/-- The text of a name, and a stand-in for anything else at the end of a chain. -/
def bottomName (language : Language) (bottom : Node) : String :=
  if language.isBaseName bottom.kind then bottom.text else "<expression>"

/-- The name to which an expression resolves as a callee. -/
def baseName : Language → Node → String
  | .python => Python.baseName
  | .rust => Rust.baseName

/-- Calls apart from the uses of macros. -/
def isCallExpression : Language → Syntax.Kind → Bool
  | .python, kind => kind == .call
  | .rust, kind => kind == .callExpression

section

variable {language : Language} {node base bottom : Node}

theorem Base.mem_children (link : language.Base node base) : base ∈ node.children := by
  cases link with
  | part _ found => exact List.mem_of_find?_eq_some found
  | unqualified _ _ found => exact List.mem_of_find?_eq_some found
  | indexed _ found => exact List.mem_of_mem_filter (List.mem_of_find?_eq_some found)

theorem Base.unique {other : Node} (link : language.Base node base) (also : language.Base node other) : base = other := by
  cases link <;> cases also <;> simp_all [basePart?]

theorem Bottom.further (link : language.Base node base) (below : language.Bottom base bottom) : language.Bottom node bottom :=
  ⟨.head link below.chain, below.last⟩

/-- A chain only goes on to what is smaller, so it comes to an end. -/
theorem exists_bottom (language : Language) (node : Node) : ∃ bottom, language.Bottom node bottom := by
  induction size : node.size using Nat.strong_induction_on generalizing node with
  | _ size ih =>
    by_cases goesOn : ∃ base, language.Base node base
    · obtain ⟨base, link⟩ := goesOn
      have smaller := Node.size_lt_of_mem_children link.mem_children
      obtain ⟨bottom, below⟩ := ih base.size (size ▸ smaller) base rfl
      exact ⟨bottom, below.further link⟩
    · exact ⟨node, .refl, not_exists.1 goesOn⟩

/-- What lies along the chain has the same end. -/
theorem Bottom.of_chain {inner : Node} (ends : language.Bottom node bottom) (chain : Relation.ReflTransGen language.Base node inner) :
    language.Bottom inner bottom := by
  induction chain with
  | refl => exact ends
  | tail _ link ih =>
    rcases ih.chain.cases_head with rfl | ⟨next, also, rest⟩
    · exact absurd link (ih.last _)
    · exact ⟨link.unique also ▸ rest, ih.last⟩

theorem Bottom.unique {other : Node} (ends : language.Bottom node bottom) (also : language.Bottom node other) : bottom = other := by
  rcases (ends.of_chain also.chain).chain.cases_head with same | ⟨next, link, _⟩
  · exact same.symm
  · exact absurd link (also.last next)

namespace IndexesClear

theorem of_chain (clear : language.IndexesClear node) (chain : Relation.ReflTransGen language.Base node base) :
    language.IndexesClear base :=
  fun inner further => clear inner (chain.trans further)

theorem of_base (clear : language.IndexesClear node) (link : language.Base node base) : language.IndexesClear base :=
  clear.of_chain (.single link)

/-- What a tidy expression is made of is tidy, all along the chain. -/
theorem of_tidy (tidy : node.Tidy) : language.IndexesClear node := by
  have along {inner : Node} (chain : Relation.ReflTransGen language.Base node inner) : inner.Tidy := by
    induction chain with
    | refl => exact tidy
    | tail _ link ih => exact ih.children _ link.mem_children
  intro inner chain isIndex
  exact (along chain).beginsClear_of_led (by rw [isIndex]; rfl)

end IndexesClear

/-! ### Steps along a chain -/

theorem ofChild_ne_named (child : Option Node) (text : String) : BaseStep.ofChild child ≠ .named text := by
  cases child <;> simp [BaseStep.ofChild]

theorem baseStep_eq_named_iff {text : String} :
    language.baseStep node = .named text ↔ language.isBaseName node.kind = true ∧ node.text = text := by
  cases language with
  | python =>
    simp only [baseStep, Python.baseStep, isBaseName]
    split <;> simp_all [ofChild_ne_named]
  | rust =>
    simp only [baseStep, Rust.baseStep, isBaseName]
    split <;> simp_all [ofChild_ne_named]

/-- Where no comment stands before it, the value that is indexed is the first of all named parts. -/
theorem baseStep_eq_down_iff (clear : node.kind = .indexExpression → node.beginsClear = true) : language.baseStep node = .down base ↔ language.Base node base := by
  constructor
  · intro goes
    cases language with
    | python =>
      simp only [baseStep, Python.baseStep] at goes
      split at goes
      any_goals cases goes
      all_goals next ofKind => exact .part (by rw [ofKind]; rfl) (BaseStep.of_ofChild goes)
    | rust =>
      simp only [baseStep, Rust.baseStep] at goes
      split at goes
      any_goals cases goes
      · next isScoped =>
        rcases Option.or_eq_some_iff.1 (BaseStep.of_ofChild goes) with path | ⟨noPath, name⟩
        · exact .part (by rw [isScoped]; rfl) path
        · exact .unqualified isScoped noPath name
      · next isField => exact .part (by rw [isField]; rfl) (BaseStep.of_ofChild goes)
      · next isGeneric => exact .part (by rw [isGeneric]; rfl) (BaseStep.of_ofChild goes)
      · next isCall => exact .part (by rw [isCall]; rfl) (BaseStep.of_ofChild goes)
      · next isType => exact .part (by rw [isType]; rfl) (BaseStep.of_ofChild goes)
      · next isIndex =>
        have first := Node.head?_eq_firstPart? (clear isIndex)
        exact .indexed isIndex (first.symm.trans (BaseStep.of_ofChild goes))
  · intro link
    cases link with
    | part isPart found =>
      unfold basePart? at isPart
      split at isPart <;> cases isPart
      all_goals next ofKind => simp [baseStep, Python.baseStep, Rust.baseStep, ofKind, found, BaseStep.ofChild]
    | unqualified isScoped noPath found => simp [baseStep, Rust.baseStep, isScoped, noPath, found, BaseStep.ofChild]
    | indexed isIndex found =>
      simp [baseStep, Rust.baseStep, isIndex, Node.head?_eq_firstPart? (clear isIndex), found, BaseStep.ofChild]

/-- An expression resolves to the name at the end of its chain of bases, if one is there. -/
theorem resolves_iff (clear : language.IndexesClear node) (ends : language.Bottom node bottom) (text : String) :
    Resolves language.baseStep node text ↔ language.isBaseName bottom.kind = true ∧ bottom.text = text := by
  constructor
  · intro resolves
    induction resolves with
    | here named =>
      rcases ends.chain.cases_head with rfl | ⟨base, link, _⟩
      · exact baseStep_eq_named_iff.1 named
      · cases named.symm.trans ((baseStep_eq_down_iff (clear _ .refl)).2 link)
    | further goes _ ih =>
      have link := (baseStep_eq_down_iff (clear _ .refl)).1 goes
      exact ih (clear.of_base link) (ends.of_chain (.single link))
  · rintro ⟨isName, rfl⟩
    obtain ⟨chain, last⟩ := ends
    induction chain using Relation.ReflTransGen.head_induction_on with
    | refl => exact .here (baseStep_eq_named_iff.2 ⟨isName, rfl⟩)
    | head link _ ih => exact .further ((baseStep_eq_down_iff (clear _ .refl)).2 link) (ih (clear.of_base link))

/-- The search comes to the end of the chain, however much more fuel it has than the size. -/
theorem followBase_eq_bottomName {fuel : Nat} (clear : language.IndexesClear node) (enough : node.size ≤ fuel)
    (ends : language.Bottom node bottom) : followBase language.baseStep fuel node = language.bottomName bottom := by
  rw [bottomName]
  split
  · next isName =>
    exact followBase_of_resolves language.baseStep_steps ((resolves_iff clear ends _).2 ⟨isName, rfl⟩) enough
  · next noName =>
    exact followBase_of_not_resolves fun text resolves => noName ((resolves_iff clear ends text).1 resolves).1

theorem baseName_eq (language : Language) (node : Node) :
    language.baseName node = followBase language.baseStep node.size node := by
  cases language <;> rfl

theorem baseName_eq_bottomName (clear : language.IndexesClear node) (ends : language.Bottom node bottom) :
    language.baseName node = language.bottomName bottom := by
  rw [baseName_eq]
  exact followBase_eq_bottomName clear (Nat.le_refl _) ends

/-- All along a chain the name is the same. -/
theorem baseName_of_chain (clear : language.IndexesClear node) (chain : Relation.ReflTransGen language.Base node base) :
    language.baseName node = language.baseName base := by
  obtain ⟨bottom, ends⟩ := language.exists_bottom node
  rw [baseName_eq_bottomName clear ends, baseName_eq_bottomName (clear.of_chain chain) (ends.of_chain chain)]

/-! ### Calls along a chain -/

theorem parts_of_isCallExpression (isCall : language.isCallExpression node.kind = true) :
    language.basePart? node.kind = some .callee ∧ node.kind.calledPart? = some .callee := by
  cases language with
  | python =>
    rw [eq_of_beq isCall]
    exact ⟨rfl, rfl⟩
  | rust =>
    rw [eq_of_beq isCall]
    exact ⟨rfl, rfl⟩

/-- A call is recorded under the name of its callee, which is that of all the chain below it. -/
theorem callTarget_of_chain {callee : Node} (isCall : language.isCallExpression node.kind = true)
    (link : language.Base node base) (clear : language.IndexesClear base) (chain : Relation.ReflTransGen language.Base base callee) :
    language.constructs.callTarget node = some (language.baseName callee) := by
  have sameName := baseName_of_chain clear chain
  have found : node.child? .callee = some base := by
    cases link with
    | part isPart found =>
      cases (parts_of_isCallExpression isCall).1.symm.trans isPart
      exact found
    | unqualified ofKind _ _ =>
      rw [ofKind] at isCall
      cases isCall
    | indexed ofKind _ =>
      rw [ofKind] at isCall
      cases isCall
  rw [← sameName]
  cases language with
  | python => simp [constructs, Python.constructs, eq_of_beq isCall, found, baseName]
  | rust => simp [constructs, Rust.constructs, Rust.callTarget, eq_of_beq isCall, found, baseName]

end

end Language

/-- The chain of bases of an expression has one end, and the search for its name as a callee comes there.
So accesses, subscripts and calls around a callee leave its name as it is, and all calls along a chain
are recorded under one name. All that this asks of a tree is that no comment stands before what is indexed, and
none does in the trees of source units. -/
theorem callees_named_by_base :
    (∀ (language : Language) (callee : Node), language.IndexesClear callee →
      (∃! bottom, language.Bottom callee bottom) ∧
      ∀ bottom fuel, language.Bottom callee bottom → callee.size ≤ fuel →
        followBase language.baseStep fuel callee = language.bottomName bottom) ∧
    (∀ (language : Language) (outer callee : Node), language.IndexesClear outer →
      Relation.ReflTransGen language.Base outer callee → language.baseName outer = language.baseName callee) ∧
    (∀ (language : Language) (call base callee : Node), language.isCallExpression call.kind = true →
      language.Base call base → language.IndexesClear base → Relation.ReflTransGen language.Base base callee →
      language.constructs.callTarget call = some (language.baseName callee)) ∧
    ∀ (unit : SourceUnit) (graph : CallGraph), extract unit = .ok graph →
      ∀ call ∈ (parse unit).preorder, unit.language.IndexesClear call ∧ (unit.language.isCallExpression call.kind = true →
        ∃ base, unit.language.Base call base ∧ ∀ callee, Relation.ReflTransGen unit.language.Base base callee →
          ⟨unit.language.baseName callee, call.line⟩ ∈ graph.calls) := by
  refine ⟨fun language callee clear => ⟨?_, ?_⟩, ?_, ?_, ?_⟩
  · obtain ⟨bottom, ends⟩ := language.exists_bottom callee
    exact ⟨bottom, ends, fun other also => also.unique ends⟩
  · exact fun bottom fuel ends enough => Language.followBase_eq_bottomName clear enough ends
  · exact fun language outer callee => Language.baseName_of_chain
  · exact fun language call base callee => Language.callTarget_of_chain
  · intro unit graph extracted call member
    obtain ⟨_, rfl⟩ := extract_eq_ok extracted
    have clear : unit.language.IndexesClear call := .of_tidy ((parse_tidy unit).1.obeys call member)
    refine ⟨clear, fun isCall => ?_⟩
    obtain ⟨isBase, isCalled⟩ := Language.parts_of_isCallExpression isCall
    obtain ⟨base, found⟩ := parse_callsSomething unit call member .callee isCalled
    have link : unit.language.Base call base := .part isBase found
    refine ⟨base, link, fun callee chain => ?_⟩
    rw [Constructs.collect_calls]
    refine List.mem_flatMap.2 ⟨call, member, ?_⟩
    rw [Constructs.callsAt, Language.callTarget_of_chain isCall link (clear.of_base link) chain]
    exact List.mem_singleton.2 rfl

/-- A call of a field of a call of an indexed call. -/
def chainedUnit : SourceUnit :=
  ⟨.rust, "fn f() \x7b a::b::<T>(0)[1](2).c(); \x7d\n"⟩

theorem callees_of_chained :
    ∃ call ∈ (parse chainedUnit).preorder, call.text = "a::b::<T>(0)[1](2).c()" ∧
      ∃ base bottom, Language.rust.Base call base ∧ Language.rust.Bottom base bottom ∧ Language.rust.bottomName bottom = "a" ∧
        Rust.constructs.callTarget call = some "a" := by
  -- One evaluation reads the unit for all that is asked of its tree.
  obtain ⟨extracted, call, member, isCall, text⟩ :
      extract chainedUnit = .ok ⟨[⟨"a", 1⟩, ⟨"a", 1⟩, ⟨"a", 1⟩], []⟩ ∧ ∃ call ∈ (parse chainedUnit).preorder,
        Language.rust.isCallExpression call.kind = true ∧ call.text = "a::b::<T>(0)[1](2).c()" := by
    decide +kernel
  obtain ⟨ends, names, targets, units⟩ := callees_named_by_base
  obtain ⟨callClear, recorded⟩ := units _ _ extracted call member
  obtain ⟨base, link, recorded⟩ := recorded isCall
  have clear := callClear.of_base link
  obtain ⟨⟨bottom, isBottom, _⟩, search⟩ := ends .rust base clear
  obtain ⟨named, _⟩ : chainedUnit.language.baseName base = "a" ∧ call.line = 1 := by simpa using recorded base .refl
  have named : Language.rust.baseName base = "a" := named
  refine ⟨call, member, text, base, bottom, link, isBottom, ?_, ?_⟩
  · rw [← search bottom base.size isBottom (Nat.le_refl _), ← Language.baseName_eq, named]
  · rw [← named]
    exact targets .rust call base base isCall link clear .refl

end CallPolicy
