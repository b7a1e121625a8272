import SnippetRubric.Tree.Node

/-!
# Damaged input

A parser marks the places where the input does not follow the grammar, and tells the point where
each node starts.  `PlacedTree.damage` walks through a tree, at any depth, and collects the marked
places with the positions that an editor shows for them, and `PlacedTree.verdict` judges a tree by
their number: none, exactly one, or several.

A tree without points gets them from its source (`ParseTree.placed`).
-/

namespace SnippetRubric

/-- A mark with the point where its node starts, as the parser tells it. -/
structure PlacedMark extends Mark where
  start : Point
deriving DecidableEq, Repr

/-- What a parser makes of a text, with the points where the nodes start. -/
abbrev PlacedTree := Tree PlacedMark

/-- A place where the input does not follow the grammar. -/
structure Damage where
  span : Span
  position : Position
deriving DecidableEq, Repr

/-- The place of a mark: lines and columns are counted from one. -/
def Damage.ofMark (mark : PlacedMark) : Damage :=
  { span := mark.span, position := mark.start.position }

/-- Why a text is not accepted. -/
inductive SyntaxFault where
  | single (damage : Damage)
  | several (count : Nat)
deriving DecidableEq, Repr

namespace SyntaxFault

/-- The wording of each fault. -/
def message : SyntaxFault → String
  | single damage =>
      s!"syntax error at line {damage.position.line}, column {damage.position.column} " ++
        s!"(bytes {damage.span.start}..{damage.span.stop})"
  | several count => s!"multiple syntax errors detected: {count} ERROR nodes"

end SyntaxFault

namespace PlacedTree

mutual

/-- Adds the damaged places of a tree to those that were found before it. -/
def collectDamage (found : List Damage) : PlacedTree → List Damage
  | .node mark children =>
      if mark.damaged then
        collectDamageAll (found ++ [.ofMark mark]) children
      else
        collectDamageAll found children

/-- Adds the damaged places of a list of trees, one tree after the other. -/
def collectDamageAll (found : List Damage) : List PlacedTree → List Damage
  | [] => found
  | t :: ts => collectDamageAll (collectDamage found t) ts

end

/-- The damaged places of a tree. -/
def damage (t : PlacedTree) : List Damage :=
  collectDamage [] t

/-- A tree without damage is accepted, one damaged place is reported, several are counted. -/
def verdict (t : PlacedTree) : Except SyntaxFault Unit :=
  match t.damage with
  | [] => .ok ()
  | [place] => .error (.single place)
  | places => .error (.several places.length)

end PlacedTree

namespace ParseTree

/-- Whether some mark of the tree stands for damaged input. -/
def hasDamage (t : ParseTree) : Bool :=
  t.preorder.any (·.damaged)

/-- The tree with the point in `source` where each node starts. -/
def placed (source : String) (t : ParseTree) : PlacedTree :=
  t.map fun mark => { mark with start := .ofText source mark.span.start }

/-- The damaged places of a parse tree of `source`. -/
def damage (source : String) (t : ParseTree) : List Damage :=
  (t.placed source).damage

/-- Whether a parse tree of `source` is accepted, and why not. -/
def verdict (source : String) (t : ParseTree) : Except SyntaxFault Unit :=
  (t.placed source).verdict

end ParseTree
end SnippetRubric
