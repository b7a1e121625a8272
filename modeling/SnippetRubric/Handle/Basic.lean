import SnippetRubric.Declaration.Callable
import SnippetRubric.Declaration.IntegerLiteral
import SnippetRubric.Fragment
import SnippetRubric.Tree.Agreement

/-!
# Handles

A *handle* is what a query answers with: a node, or nothing, together with the context in which
texts are read that are compared with it.  A query on an empty handle answers with empty handles
again, so that queries can be chained without asking in between.

A handle on a variable statement can be narrowed to one of its declarators, its *binding*.  It
still shows and compares as the whole statement, but questions about a declaration are answered by
the binding.
-/

namespace SnippetRubric

/-- A node or nothing, the context of texts compared with it, and a narrowing declarator. -/
structure Handle where
  node : Option Node
  context : FragmentContext
  binding : Option Node

namespace Handle

/-- The handle on nothing. -/
def empty : Handle := ⟨none, .generic, none⟩

instance : Inhabited Handle := ⟨empty⟩

/-- The handle on nothing, for texts read in a context. -/
def emptyIn (context : FragmentContext) : Handle := ⟨none, context, none⟩

/-- The handle on a node. -/
def ofNode (context : FragmentContext) (n : Node) : Handle := ⟨some n, context, none⟩

/-- The handle on a node, if there is one. -/
def ofNode? (context : FragmentContext) (n : Option Node) : Handle := ⟨n, context, none⟩

/-- The context in which texts are compared with a node of this shape. -/
def contextOf : Shape → FragmentContext
  | .method => .method
  | .classProperty => .property
  | .parameter => .parameter
  | _ => .generic

/-- The handle on a node that a lookup found. -/
def found (n : Node) : Handle := ofNode (contextOf n.shape) n

/-- The handle on what a lookup found, empty when it found nothing. -/
def found? (n : Option Node) : Handle := (n.map found).getD empty

/-- The handle on a text read in a context. -/
def inContext (parse : Parser) (context : FragmentContext) (source : String) : Handle :=
  ofNode? context (context.read parse source)

/-- The handle on a source: its only statement, or the whole program. -/
def ofSource (parse : Parser) (source : String) : Handle :=
  inContext parse .generic source

variable (h : Handle)

/-- Whether there is nothing to ask. -/
def isEmpty : Bool := h.node.isNone

/-- The node that answers questions about a declaration. -/
def focus : Option Node := h.binding.or h.node

/-- The handle narrowed to a declarator. -/
def narrowed (declarator : Node) : Handle := { h with binding := some declarator }

/-- The text of the node. -/
def display : String := (h.node.map Tree.text).getD "no ast"

/-- The name of the declaration. -/
def name? : Option String := h.focus.bind Tree.declaredName?

/-- The initializer of a variable or class property. -/
def value : Handle := found? (h.focus.bind Tree.initializer?)

/-- Whether the initializer is a call to `callee`. -/
def isCallTo (callee : String) : Bool :=
  h.value.node.any fun value =>
    value.kind == "call_expression" && value.childText? "function" == some callee

/-- Whether the initializer is an integer literal. -/
def isInteger : Bool := h.value.node.any Tree.isIntegerLiteral

/-- The scope inside a function or class. -/
def body : Handle := ofNode? .generic (h.focus.bind Tree.body?)

/-- The declared type. -/
def declaredType : Handle := ofNode? .typeReference (h.focus.bind Tree.declaredType?)

/-- The declared result type of a callable. -/
def resultType : Handle := ofNode? .typeReference (h.focus.bind Tree.resultType?)

/-- Whether two handles say the same; two empty ones do. -/
def agreesWith (other : Handle) : Bool := agree h.node other.node

/-- What a text's node is compared as: where the handle is on a bare expression, an expression
statement counts as its expression. -/
def aligned (target : Option Node) (parsed : Option Node) : Option Node :=
  match target, parsed with
  | some target, some parsed =>
      if parsed.kind = "expression_statement" ∧ target.kind ≠ "expression_statement" then
        parsed.firstNamed?
      else
        some parsed
  | _, _ => parsed

/-- Whether a text, read in the handle's context, says the same. -/
def agreesWithText (parse : Parser) (text : String) : Bool :=
  agree h.node (aligned h.node (inContext parse h.context text).node)

/-- Whether there is a declared type that says the same as `text`. -/
def hasDeclaredType (parse : Parser) (text : String) : Bool :=
  !h.declaredType.isEmpty && h.declaredType.agreesWithText parse text

/-- Whether there is a declared result type that says the same as `text`. -/
def hasResultType (parse : Parser) (text : String) : Bool :=
  !h.resultType.isEmpty && h.resultType.agreesWithText parse text

end Handle
end SnippetRubric
