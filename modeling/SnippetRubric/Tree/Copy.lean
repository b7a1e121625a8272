import SnippetRubric.Tree.Node

/-!
# Copying a parse tree

`ParseTree.copy` turns a parse tree and its source into a node.  Trees that nest too deeply are
refused: no node may stand more than `maxDepth` levels below the root.
-/

namespace SnippetRubric

/-- The deepest level that a copied tree may have, the root standing at level zero. -/
def maxDepth : Nat := 1024

/-- A tree has a node below the deepest level. -/
inductive TooDeep where
  | mk
deriving DecidableEq, Repr

namespace TooDeep

/-- The wording of the refusal. -/
def message (_ : TooDeep) : String :=
  s!"syntax tree nests deeper than {maxDepth} levels"

end TooDeep

/-- The mark with the text that its span covers in `source`. -/
def Mark.excerpt (source : String) (mark : Mark) : Excerpt :=
  { mark with text := mark.span.slice source }

namespace ParseTree

mutual

/-- Copies a tree whose root stands at `depth`. -/
def copyAt (source : String) (depth : Nat) : ParseTree → Except TooDeep Node
  | .node mark children =>
      if maxDepth < depth then
        .error .mk
      else
        (copyAllAt source (depth + 1) children).map (.node (mark.excerpt source))

/-- Copies trees whose roots stand at `depth`, and refuses them all when one is refused. -/
def copyAllAt (source : String) (depth : Nat) : List ParseTree → Except TooDeep (List Node)
  | [] => .ok []
  | t :: ts =>
      match copyAt source depth t, copyAllAt source depth ts with
      | .ok n, .ok ns => .ok (n :: ns)
      | .error e, _ => .error e
      | _, .error e => .error e

end

/-- The node for a whole parse tree of `source`. -/
def copy (source : String) (t : ParseTree) : Except TooDeep Node :=
  copyAt source 0 t

end ParseTree
end SnippetRubric
