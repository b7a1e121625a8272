import SnippetRubric.Tree.Node

/-!
# Declarations and scopes

A *scope* is what a lookup searches: the statements of a program, a block or a class body, or a
single node on its own.  An export statement is transparent, the declaration that it holds stands
in its place.

A declaration introduces a *name*: a variable statement the names of all its declarators, of which
the first speaks for the statement, a parameter its pattern, any other declaration its `name`
child.
-/

namespace SnippetRubric
namespace Tree

variable (n : Node)

/-- The declaration inside an export statement; any other node stands for itself. -/
def unexported : Node :=
  if n.shape = .exported then (n.child? "declaration").getD n else n

theorem shape_eq_exported_iff {n : Node} : n.shape = .exported ↔ n.kind = "export_statement" := by
  constructor
  · intro h
    simpa [Shape.kinds] using Shape.mem_kinds_of_ofKind h (by decide)
  · intro h
    rw [shape, h]
    rfl

theorem unexported_of_child? {n d : Node} (hshape : n.shape = .exported)
    (hd : n.child? "declaration" = some d) : n.unexported = d := by
  rw [unexported, if_pos hshape, hd, Option.getD_some]

theorem unexported_of_ne {n : Node} (hshape : n.shape ≠ .exported) : n.unexported = n :=
  if_neg hshape

/-- An export statement with a `declaration` child is replaced by that child, and every other node
stays. -/
theorem unexported_cases (n : Node) :
    (n.kind = "export_statement" ∧ n.child? "declaration" = some n.unexported) ∨
      ((n.kind = "export_statement" → n.child? "declaration" = none) ∧ n.unexported = n) := by
  by_cases hshape : n.shape = .exported
  · cases hd : n.child? "declaration" with
    | none =>
        exact Or.inr ⟨fun _ => rfl, by rw [unexported, if_pos hshape, hd, Option.getD_none]⟩
    | some d =>
        exact Or.inl ⟨shape_eq_exported_iff.mp hshape, by rw [unexported_of_child? hshape hd]⟩
  · exact Or.inr ⟨fun hkind => absurd (shape_eq_exported_iff.mpr hkind) hshape,
      unexported_of_ne hshape⟩

/-- Whether the node's statements form a scope. -/
def opensScope : Bool :=
  n.shape == .program || n.shape == .block || n.shape == .classBody

/-- The entries of the scope at a node, in source order. -/
def scope : List Node :=
  if n.opensScope then n.statements.map unexported else [n.unexported]

/-- The declarators of a variable statement. -/
def declarators : List Node :=
  n.childrenOf .declarator

/-- The type in a node's `type` field, without the colon of an annotation. -/
def annotatedType? : Option Node :=
  (n.child? "type").bind fun clause =>
    if clause.shape = .typeClause then clause.firstNamed? else some clause

/-- The names that the declarators of a variable statement introduce. -/
def declaratorNames : List String :=
  n.declarators.filterMap fun declarator => declarator.childText? "name"

/-- The name by which a declaration is known. -/
def declaredName? : Option String :=
  match n.shape with
  | .variableStatement => n.declarators.head?.bind fun declarator => declarator.childText? "name"
  | .parameter => n.childText? "pattern"
  | _ => n.childText? "name"

/-- Whether a declaration introduces `name`; a variable statement does with any declarator. -/
def declares (name : String) : Bool :=
  if n.shape = .variableStatement then n.declaratorNames.contains name
  else n.declaredName? == some name

/-- The initializer of a variable statement's first declarator, of a declarator or of a class
property. -/
def initializer? : Option Node :=
  match n.shape with
  | .variableStatement => n.declarators.head?.bind fun declarator => declarator.child? "value"
  | .declarator | .classProperty => n.child? "value"
  | _ => none

/-- The members of a class that have a shape, in source order. -/
def classMembers (shape : Shape) : List Node :=
  if n.shape = .classDecl then ((n.child? "body").map (·.childrenOf shape)).getD [] else []

end Tree
end SnippetRubric
