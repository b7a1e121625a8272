import SnippetRubric.Declaration.Basic

/-!
# Callables

A *callable* has parameters, a result type and a body: a function, a method, an arrow function or
a function expression.  The last two may be bound to a name by a declarator, and then go by that
name.
-/

namespace SnippetRubric

/-- A function and the name node of the declarator that binds it. -/
structure Callable where
  function : Node
  binding : Option Node

namespace Callable

/-- The callable that a declarator binds, if its value is a function. -/
def ofDeclarator? (declarator : Node) : Option Callable :=
  (declarator.child? "value").bind fun value =>
    match value.shape with
    | .arrow | .functionExpression => some ⟨value, declarator.child? "name"⟩
    | _ => none

/-- The callables that a variable statement binds, in order. -/
def bindings (n : Node) : List Callable :=
  if n.shape = .variableStatement then n.declarators.filterMap ofDeclarator? else []

/-- A node seen as a callable; a variable statement is seen as the first one that it binds. -/
def ofNode? (n : Node) : Option Callable :=
  match n.shape with
  | .function | .method | .arrow | .functionExpression => some ⟨n, none⟩
  | .declarator => ofDeclarator? n
  | .variableStatement => (bindings n).head?
  | _ => none

variable (c : Callable)

/-- The name of the binding, or else the function's own. -/
def name? : Option String :=
  match c.binding with
  | some binding => some binding.text
  | none => c.function.childText? "name"

/-- The parameters in order; a lone parameter without brackets is one too. -/
def parameters : List Node :=
  match c.function.child? "parameters" with
  | some list => list.childrenOf .parameter
  | none => (c.function.child? "parameter").toList

/-- The declared result type. -/
def resultType? : Option Node :=
  (c.function.child? "return_type").bind Tree.firstNamed?

/-- The body. -/
def body? : Option Node :=
  c.function.child? "body"

end Callable

namespace Tree

variable (n : Node)

/-- The first declarator of a variable statement that binds `name` to a function. -/
def functionDeclarator? (name : String) : Option Node :=
  if n.shape = .variableStatement then
    n.declarators.find? fun declarator =>
      (Callable.ofNode? declarator).any fun callable => callable.name? == some name
  else
    none

/-- The result type of a node seen as a callable. -/
def resultType? : Option Node :=
  (Callable.ofNode? n).bind Callable.resultType?

/-- The declared type of a declaration: the type of a variable's first declarator, the type that
an alias stands for, or the result type of a callable. -/
def declaredType? : Option Node :=
  match n.shape with
  | .variableStatement => n.declarators.head?.bind annotatedType?
  | .declarator | .parameter | .classProperty | .propertySignature => n.annotatedType?
  | .typeAlias => n.child? "value"
  | _ => n.resultType?

/-- The body of a class, or of a node seen as a callable. -/
def body? : Option Node :=
  if n.shape = .classDecl then n.child? "body" else (Callable.ofNode? n).bind Callable.body?

/-- The parameters of a node seen as a callable. -/
def parameters : List Node :=
  ((Callable.ofNode? n).map Callable.parameters).getD []

end Tree
end SnippetRubric
