import SnippetRubric.Declaration.Callable

/-!
# Type literals

A type literal lists members.  It is found in a variable's annotation, in an interface's body,
behind an alias, in the annotation of a parameter or declarator, or is the node itself.
-/

namespace SnippetRubric
namespace Tree

variable (n : Node)

/-- The node where a type literal is looked for. -/
def literalCandidate? : Option Node :=
  match n.shape with
  | .variableStatement => n.declarators.head?.bind annotatedType?
  | .interface => n.child? "body"
  | .typeAlias => n.child? "value"
  | .parameter | .declarator => n.annotatedType?
  | .typeLiteral => some n
  | _ => none

/-- The type literal that a declaration carries. -/
def typeLiteral? : Option Node :=
  n.literalCandidate?.filter fun candidate => candidate.shape == .typeLiteral

/-- The members of a type literal: its named children that have a name. -/
def literalMembers : List Node :=
  n.namedChildren.filter fun member => (member.child? "name").isSome

/-- The first member with a name in the type literal that a declaration carries. -/
def typeMember? (name : String) : Option Node :=
  n.typeLiteral?.bind fun literal =>
    literal.literalMembers.find? fun member => member.declaredName? == some name

/-- The type of a member, and of a method signature its result type. -/
def memberType? : Option Node :=
  n.annotatedType?.or n.resultType?

end Tree
end SnippetRubric
