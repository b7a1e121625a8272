import SnippetRubric.Declaration.IfChain
import SnippetRubric.Declaration.IntegerLiteral
import SnippetRubric.Declaration.TypeLiteral
import SnippetRubric.Proofs.Simulation.Scope
import SnippetRubric.Proofs.Tree.NormalForm

/-!
# Simulations of nodes

Queries read a node in a few ways only: its kind, its children by field, shape and name, the texts
of children that name something, the text of a number, the question mark of a member, and its normal
form.  A *simulation* is a relation between nodes under which all these readings are related or
equal (`Simulation`).  Every question about declarations then has related or equal answers on
related nodes.  What only concerns the entries of a scope holds of every scope simulation, and a
simulation is one (`Simulation.scopeSimulation`).
-/

namespace SnippetRubric

/-- The fields whose texts are read as a name, a callee or a sign. -/
def readFields : List String := ["name", "pattern", "function", "operator"]

/-- A relation between nodes that no query can tell apart, except for the texts that it shows. -/
structure Simulation (R : Node → Node → Prop) : Prop where
  kind_eq : ∀ {a b}, R a b → a.kind = b.kind
  child : ∀ {a b}, R a b → ∀ field, Option.Rel R (a.child? field) (b.child? field)
  childText_eq : ∀ {a b}, R a b → ∀ field ∈ readFields, a.childText? field = b.childText? field
  childrenOf : ∀ {a b}, R a b → ∀ shape, shape ≠ .other →
    List.Forall₂ R (a.childrenOf shape) (b.childrenOf shape)
  statements : ∀ {a b}, R a b → List.Forall₂ R a.statements b.statements
  literalMembers : ∀ {a b}, R a b → List.Forall₂ R a.literalMembers b.literalMembers
  typeClause : ∀ {a b}, R a b →
    Option.Rel R ((a.child? "type").bind Tree.firstNamed?) ((b.child? "type").bind Tree.firstNamed?)
  resultClause : ∀ {a b}, R a b →
    Option.Rel R ((a.child? "return_type").bind Tree.firstNamed?)
      ((b.child? "return_type").bind Tree.firstNamed?)
  hasToken_eq : ∀ {a b}, R a b → a.hasToken "?" = b.hasToken "?"
  number_eq : ∀ {a b}, R a b → a.kind = "number" → a.text = b.text
  normalForm_eq : ∀ {a b}, R a b → a.normalForm = b.normalForm

namespace Simulation

variable {R : Node → Node → Prop} (sim : Simulation R) {a b : Node}
include sim

section Declarations

theorem scopeSimulation : ScopeSimulation R where
  kind_eq := sim.kind_eq
  name_eq := fun h => sim.childText_eq h "name" (by decide)
  value := fun h => sim.child h "value"
  declaration := fun h => sim.child h "declaration"
  declarators := fun h => sim.childrenOf h .declarator (by decide)

theorem shape_eq
    (h : R a b) :
    a.shape = b.shape :=
  sim.scopeSimulation.shape_eq h

theorem firstStatement
    (h : R a b) :
    Option.Rel R a.firstStatement? b.firstStatement? := by
  rw [Tree.firstStatement?, Tree.firstStatement?, ← List.head?_filter, ← List.head?_filter]
  exact (sim.statements h).head?

theorem declarators
    (h : R a b) :
    List.Forall₂ R a.declarators b.declarators :=
  sim.scopeSimulation.declarators h

/-- Related export statements hold related declarations. -/
theorem unexported
    (h : R a b) :
    R a.unexported b.unexported :=
  sim.scopeSimulation.unexported h

/-- Related scopes have related entries. -/
theorem scope
    (h : R a b) :
    List.Forall₂ R a.scope b.scope := by
  have hopens : a.opensScope = b.opensScope := by
    simp only [Tree.opensScope, sim.shape_eq h]
  unfold Tree.scope
  rw [hopens]
  split
  · exact (sim.statements h).map fun _ _ hcd => sim.unexported hcd
  · exact .cons (sim.unexported h) .nil

theorem annotatedType
    (h : R a b) :
    Option.Rel R a.annotatedType? b.annotatedType? := by
  have hclause := sim.typeClause h
  unfold Tree.annotatedType?
  rcases (sim.child h "type").eq_none_or_eq_some with ⟨ha, hb⟩ | ⟨c, d, ha, hb, hcd⟩
  · rw [ha, hb]
    exact .none
  · rw [ha, hb] at hclause ⊢
    simp only [Option.bind_some, sim.shape_eq hcd] at hclause ⊢
    split
    · exact hclause
    · exact .some hcd

theorem declaratorNames_eq
    (h : R a b) :
    a.declaratorNames = b.declaratorNames :=
  sim.scopeSimulation.declaratorNames_eq h

/-- Related declarations are known by the same name. -/
theorem declaredName_eq
    (h : R a b) :
    a.declaredName? = b.declaredName? := by
  by_cases hshape : a.shape = .parameter
  · have hshape' : b.shape = .parameter := (sim.shape_eq h).symm.trans hshape
    rw [Tree.declaredName?, Tree.declaredName?, hshape, hshape']
    exact sim.childText_eq h "pattern" (by decide)
  · exact sim.scopeSimulation.declaredName_eq h hshape

/-- Related declarations introduce the same names. -/
theorem declares_eq
    (h : R a b)
    (name : String) :
    a.declares name = b.declares name := by
  simp only [Tree.declares, sim.shape_eq h, sim.declaratorNames_eq h, sim.declaredName_eq h]

theorem initializer
    (h : R a b) :
    Option.Rel R a.initializer? b.initializer? := by
  unfold Tree.initializer?
  rw [sim.shape_eq h]
  split
  · exact (sim.declarators h).head?.bind fun _ _ hcd => sim.child hcd "value"
  · exact sim.child h "value"
  · exact sim.child h "value"
  · exact .none

theorem classMembers
    (h : R a b)
    (shape : Shape)
    (hshape : shape ≠ .other) :
    List.Forall₂ R (a.classMembers shape) (b.classMembers shape) := by
  unfold Tree.classMembers
  rw [sim.shape_eq h]
  split
  · rcases (sim.child h "body").eq_none_or_eq_some with ⟨ha, hb⟩ | ⟨c, d, ha, hb, hcd⟩
    · rw [ha, hb]
      exact .nil
    · rw [ha, hb]
      exact sim.childrenOf hcd shape hshape
  · exact .nil

end Declarations

section Callables

theorem callableOfNode
    (h : R a b) :
    Option.Rel (CallableRel R) (Callable.ofNode? a) (Callable.ofNode? b) :=
  sim.scopeSimulation.callableOfNode h

theorem callableParameters
    {c d : Callable}
    (h : CallableRel R c d) :
    List.Forall₂ R c.parameters d.parameters := by
  unfold Callable.parameters
  rcases (sim.child h.1 "parameters").eq_none_or_eq_some with ⟨ha, hb⟩ | ⟨l, m, ha, hb, hlm⟩
  · rw [ha, hb]
    exact (sim.child h.1 "parameter").toList
  · rw [ha, hb]
    exact sim.childrenOf hlm .parameter (by decide)

theorem parameters
    (h : R a b) :
    List.Forall₂ R a.parameters b.parameters := by
  unfold Tree.parameters
  rcases (sim.callableOfNode h).eq_none_or_eq_some with ⟨ha, hb⟩ | ⟨c, d, ha, hb, hcd⟩
  · rw [ha, hb]
    exact .nil
  · rw [ha, hb]
    exact sim.callableParameters hcd

theorem resultType
    (h : R a b) :
    Option.Rel R a.resultType? b.resultType? :=
  (sim.callableOfNode h).bind fun _ _ hcd => sim.resultClause hcd.1

theorem body
    (h : R a b) :
    Option.Rel R a.body? b.body? := by
  unfold Tree.body?
  rw [sim.shape_eq h]
  split
  · exact sim.child h "body"
  · exact (sim.callableOfNode h).bind fun _ _ hcd => sim.child hcd.1 "body"

theorem declaredType
    (h : R a b) :
    Option.Rel R a.declaredType? b.declaredType? := by
  unfold Tree.declaredType?
  rw [sim.shape_eq h]
  split
  · exact (sim.declarators h).head?.bind fun _ _ hcd => sim.annotatedType hcd
  · exact sim.annotatedType h
  · exact sim.annotatedType h
  · exact sim.annotatedType h
  · exact sim.annotatedType h
  · exact sim.child h "value"
  · exact sim.resultType h

theorem functionDeclarator
    (h : R a b)
    (name : String) :
    Option.Rel R (a.functionDeclarator? name) (b.functionDeclarator? name) :=
  sim.scopeSimulation.functionDeclarator h name

end Callables

section IfChains

theorem elseBranch
    (h : R a b) :
    Option.Rel R a.elseBranch? b.elseBranch? :=
  (sim.child h "alternative").bind fun _ _ hcd => sim.firstStatement hcd

theorem testedCondition
    (h : R a b) :
    Option.Rel R a.testedCondition? b.testedCondition? :=
  (sim.child h "condition").bind fun _ _ hcd => sim.firstStatement hcd

/-- Chains are related when their links and their last statements are. -/
def ChainRel (R : Node → Node → Prop) (c d : IfChain) : Prop :=
  List.Forall₂ R c.links d.links ∧ Option.Rel R c.otherwise d.otherwise

/-- Related `if` statements start related chains. -/
theorem ofConditional
    (h : R a b) :
    ChainRel R (IfChain.ofConditional a) (IfChain.ofConditional b) := by
  -- The induction follows the links of the first chain; the second one keeps step with it.
  induction a using IfChain.ofConditional.induct generalizing b with
  | case1 a hnone =>
      rcases (sim.elseBranch h).eq_none_or_eq_some with ⟨_, hb⟩ | ⟨c, d, ha, _, _⟩
      · rw [IfChain.ofConditional_eq a, IfChain.ofConditional_eq b, hnone, hb]
        exact ⟨.cons h .nil, .none⟩
      · rw [hnone] at ha
        cases ha
  | case2 a next hnext hshape ih =>
      rcases (sim.elseBranch h).eq_none_or_eq_some with ⟨ha, _⟩ | ⟨c, d, ha, hb, hcd⟩
      · rw [hnext] at ha
        cases ha
      · obtain rfl : next = c := Option.some.inj (hnext.symm.trans ha)
        obtain ⟨hlinks, hotherwise⟩ := ih hcd
        have hshape' : d.shape = .conditional := (sim.shape_eq hcd).symm.trans hshape
        rw [IfChain.ofConditional_eq a, IfChain.ofConditional_eq b, hnext, hb]
        simp only [if_pos hshape, if_pos hshape']
        exact ⟨.cons h hlinks, hotherwise⟩
  | case3 a next hnext hshape =>
      rcases (sim.elseBranch h).eq_none_or_eq_some with ⟨ha, _⟩ | ⟨c, d, ha, hb, hcd⟩
      · rw [hnext] at ha
        cases ha
      · obtain rfl : next = c := Option.some.inj (hnext.symm.trans ha)
        have hshape' : d.shape ≠ .conditional := by
          rw [← sim.shape_eq hcd]
          exact hshape
        rw [IfChain.ofConditional_eq a, IfChain.ofConditional_eq b, hnext, hb]
        simp only [if_neg hshape, if_neg hshape']
        exact ⟨.cons h .nil, .some hcd⟩

theorem chainOfNode
    (h : R a b) :
    Option.Rel (ChainRel R) (IfChain.ofNode? a) (IfChain.ofNode? b) := by
  unfold IfChain.ofNode?
  rw [sim.shape_eq h]
  split
  · exact .some (sim.ofConditional h)
  · exact .none

theorem chainConditions
    {c d : IfChain}
    (h : ChainRel R c d) :
    List.Forall₂ R c.conditions d.conditions :=
  h.1.filterMap fun _ _ hlink => sim.testedCondition hlink

theorem chainBranches
    {c d : IfChain}
    (h : ChainRel R c d) :
    List.Forall₂ R c.branches d.branches :=
  List.rel_append (h.1.filterMap fun _ _ hlink => sim.child hlink "consequence") h.2.toList

end IfChains

section Literals

/-- Related nodes are integer literals together. -/
theorem isIntegerLiteral_eq
    (h : R a b) :
    a.isIntegerLiteral = b.isIntegerLiteral := by
  -- The induction follows the signs in front of the first literal.
  induction a using Tree.isIntegerLiteral.induct generalizing b with
  | case1 a hkind =>
      have hkind' : b.kind = "number" := (sim.kind_eq h).symm.trans hkind
      rw [Tree.isIntegerLiteral_eq a, Tree.isIntegerLiteral_eq b, if_pos hkind, if_pos hkind',
        sim.number_eq h hkind]
  | case2 a hkind hunary ih =>
      have hsign : a.hasSign = b.hasSign := by
        simp only [Tree.hasSign, sim.childText_eq h "operator" (by decide)]
      have hargument :
          (a.child? "argument").any Tree.isIntegerLiteral =
            (b.child? "argument").any Tree.isIntegerLiteral := by
        rcases (sim.child h "argument").eq_none_or_eq_some with ⟨ha, hb⟩ | ⟨c, d, ha, hb, hcd⟩
        · rw [ha, hb]
        · rw [ha, hb]
          exact ih c ha hcd
      rw [Tree.isIntegerLiteral_eq a, Tree.isIntegerLiteral_eq b, ← sim.kind_eq h, if_neg hkind,
        if_neg hkind, if_pos hunary, if_pos hunary, hsign, hargument]
  | case3 a hkind hunary =>
      rw [Tree.isIntegerLiteral_eq a, Tree.isIntegerLiteral_eq b, ← sim.kind_eq h, if_neg hkind,
        if_neg hkind, if_neg hunary, if_neg hunary]

theorem typeLiteral
    (h : R a b) :
    Option.Rel R a.typeLiteral? b.typeLiteral? := by
  have hcandidate : Option.Rel R a.literalCandidate? b.literalCandidate? := by
    unfold Tree.literalCandidate?
    rw [sim.shape_eq h]
    split
    · exact (sim.declarators h).head?.bind fun _ _ hcd => sim.annotatedType hcd
    · exact sim.child h "body"
    · exact sim.child h "value"
    · exact sim.annotatedType h
    · exact sim.annotatedType h
    · exact .some h
    · exact .none
  exact hcandidate.filter fun _ _ hcd => by rw [sim.shape_eq hcd]

theorem typeMember
    (h : R a b)
    (name : String) :
    Option.Rel R (a.typeMember? name) (b.typeMember? name) := by
  refine (sim.typeLiteral h).bind fun c d hcd => ?_
  refine (sim.literalMembers hcd).find? fun m n hmn => ?_
  rw [sim.declaredName_eq hmn]

theorem memberType
    (h : R a b) :
    Option.Rel R a.memberType? b.memberType? :=
  (sim.annotatedType h).or (sim.resultType h)

end Literals

/-- Related nodes agree with the same nodes. -/
theorem agree_eq
    {x y : Option Node}
    (h : Option.Rel R x y)
    (z : Option Node) :
    agree x z = agree y z := by
  cases h with
  | none =>
      rfl
  | @some a b hab =>
      cases z with
      | none =>
          rfl
      | some c =>
          have hform := sim.normalForm_eq hab
          rw [Bool.eq_iff_iff, agree_some_iff, agree_some_iff, hform]

end Simulation
end SnippetRubric
