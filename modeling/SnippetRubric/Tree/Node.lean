import SnippetRubric.Text.Span
import SnippetRubric.Tree.Basic
import SnippetRubric.Tree.Shape

/-!
# Parse trees and nodes

A parser answers with a `ParseTree`: every node is *marked* with its kind, the field it fills in
its parent, whether the grammar names it, whether it stands for damaged input, and its span.  The
parser itself is a parameter of this library, any function from texts to parse trees.

A `Node` is a tree whose marks also carry the text they cover, so that it can be read without the
source it came from.  The module names what is asked of a node: its attributes, its children by
field, shape and name, and whether it or anything below it is damaged.
-/

namespace SnippetRubric

/-- What a parser says about one node. -/
structure Mark where
  kind : String
  field : Option String
  named : Bool
  damaged : Bool
  span : Span
deriving DecidableEq, Repr, Inhabited

/-- A mark with the text that its span covers. -/
structure Excerpt extends Mark where
  text : String
deriving DecidableEq, Repr, Inhabited

/-- What a parser makes of a text. -/
abbrev ParseTree := Tree Mark

/-- A parser, as this library sees one. -/
abbrev Parser := String → ParseTree

/-- A tree that can be read without its source. -/
abbrev Node := Tree Excerpt

namespace Tree

section Attributes

variable (n : Node)

/-- The grammar's kind. -/
def kind : String := n.label.kind

/-- The role that the kind plays. -/
def shape : Shape := Shape.ofKind n.kind

/-- The field that the node fills in its parent. -/
def field : Option String := n.label.field

/-- Whether the grammar names the node, as opposed to a token such as a bracket. -/
def named : Bool := n.label.named

/-- Whether the node stands for damaged input. -/
def damaged : Bool := n.label.damaged

/-- The bytes that the node covers. -/
def span : Span := n.label.span

/-- The text that the node covers. -/
def text : String := n.label.text

/-- Whether the node is a comment. -/
def isComment : Bool := n.kind == "comment"

/-- Whether the node or a node below it stands for damaged input. -/
def hasDamage : Bool := n.preorder.any (·.damaged)

end Attributes

section Children

variable (n : Node)

/-- The first child in a field. -/
def child? (field : String) : Option Node :=
  n.children.find? fun c => c.field == some field

/-- All children in a field. -/
def childrenIn (field : String) : List Node :=
  n.children.filter fun c => c.field == some field

/-- The text of the first child in a field. -/
def childText? (field : String) : Option String :=
  (n.child? field).map text

/-- All children of a shape. -/
def childrenOf (shape : Shape) : List Node :=
  n.children.filter fun c => c.shape == shape

/-- The first child of a shape. -/
def firstOf? (shape : Shape) : Option Node :=
  n.children.find? fun c => c.shape == shape

/-- The children that the grammar names. -/
def namedChildren : List Node :=
  n.children.filter named

/-- The first child that the grammar names. -/
def firstNamed? : Option Node :=
  n.children.find? named

/-- The named children that are not comments. -/
def statements : List Node :=
  n.children.filter fun c => c.named && !c.isComment

/-- The first named child that is not a comment. -/
def firstStatement? : Option Node :=
  n.children.find? fun c => c.named && !c.isComment

/-- Whether a token with this spelling stands right below the node. -/
def hasToken (spelling : String) : Bool :=
  n.children.any fun c => !c.named && c.kind == spelling

end Children

/-- A node's child in a field is smaller than the node. -/
theorem sizeOf_lt_of_child? {n c : Node} {field : String} (h : n.child? field = some c) :
    sizeOf c < sizeOf n :=
  sizeOf_lt_of_mem_children (List.mem_of_find?_eq_some h)

theorem field_of_child? {n c : Node} {field : String} (h : n.child? field = some c) :
    c.field = some field := by
  simpa using List.find?_some h

end Tree
end SnippetRubric
