import SnippetRubric.Tree.Node

/-!
# If chains

An `if` statement whose `else` branch is again an `if` statement is read as one chain of *links*,
each with a condition and a consequence, and an optional last `else` statement without a condition.
-/

namespace SnippetRubric

namespace Tree

/-- The statement of an `if` statement's `else` branch. -/
def elseBranch? (n : Node) : Option Node :=
  (n.child? "alternative").bind firstStatement?

/-- The tested expression of a link, without its brackets. -/
def testedCondition? (n : Node) : Option Node :=
  (n.child? "condition").bind firstStatement?

/-- The statement of an `else` branch is smaller than the whole. -/
theorem sizeOf_lt_of_elseBranch? {n next : Node} (h : n.elseBranch? = some next) :
    sizeOf next < sizeOf n := by
  obtain ⟨clause, hclause, hnext⟩ := Option.bind_eq_some_iff.mp h
  exact Nat.lt_trans
    (sizeOf_lt_of_mem_children (List.mem_of_find?_eq_some hnext))
    (sizeOf_lt_of_child? hclause)

end Tree

/-- The links of a chain, outermost first, and the last `else` statement. -/
structure IfChain where
  links : List Node
  otherwise : Option Node

namespace IfChain

/-- The chain that starts with an `if` statement. -/
def ofConditional (n : Node) : IfChain :=
  match _h : n.elseBranch? with
  | none => ⟨[n], none⟩
  | some next =>
      if next.shape = .conditional then
        let rest := ofConditional next
        ⟨n :: rest.links, rest.otherwise⟩
      else
        ⟨[n], some next⟩
termination_by sizeOf n
decreasing_by exact Tree.sizeOf_lt_of_elseBranch? _h

/-- The chain in terms of the `else` branch: it goes on where the branch is an `if` statement. -/
theorem ofConditional_eq (n : Node) :
    ofConditional n =
      match n.elseBranch? with
      | none => ⟨[n], none⟩
      | some next =>
          if next.shape = .conditional then
            ⟨n :: (ofConditional next).links, (ofConditional next).otherwise⟩
          else
            ⟨[n], some next⟩ := by
  rw [ofConditional]
  split <;> rename_i h <;> simp [h]

/-- The chain at a node; none unless the node is an `if` statement. -/
def ofNode? (n : Node) : Option IfChain :=
  if n.shape = .conditional then some (ofConditional n) else none

variable (chain : IfChain)

/-- The tested expressions of the links. -/
def conditions : List Node :=
  chain.links.filterMap Tree.testedCondition?

/-- The statements of all branches, the last `else` included. -/
def branches : List Node :=
  chain.links.filterMap (·.child? "consequence") ++ chain.otherwise.toList

end IfChain
end SnippetRubric
