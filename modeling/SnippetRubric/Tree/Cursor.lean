import SnippetRubric.Tree.Copy

/-!
# Cursors

A *cursor* stands on a node of a parse tree and is moved to the first child, to the next sibling or
to the parent.  It is a way to go through a tree with one place to remember: the subtree it stands
on, and frame by frame what lies around it.

`Cursor.copyFrom` copies the subtree under a cursor by moving that cursor through it.  A copy of a
node goes through its children one after the other, from wherever the copy of the last one has left
the cursor, so that nothing in the definition says where the walk leads.  An answer `none` would
stand for a walk that does not get ahead, where the next sibling has no fewer siblings after it than
the last one had.
-/

namespace SnippetRubric

/-- What lies around a node: the mark of its parent, the siblings before it with the nearest first,
and the siblings after it. -/
structure Frame where
  mark : Mark
  before : List ParseTree
  after : List ParseTree

/-- A node of a tree: the subtree at the node, and the frames up to the root. -/
structure Cursor where
  focus : ParseTree
  above : List Frame

namespace Cursor

/-- The cursor on the root of a tree. -/
def ofTree (t : ParseTree) : Cursor := ⟨t, []⟩

/-- What the parser says about the node. -/
def mark (c : Cursor) : Mark := c.focus.label

/-- The cursor on the first child. -/
def firstChild? (c : Cursor) : Option Cursor :=
  match c.focus with
  | .node mark (first :: rest) => some ⟨first, ⟨mark, [], rest⟩ :: c.above⟩
  | .node _ [] => none

/-- The cursor on the next sibling. -/
def nextSibling? (c : Cursor) : Option Cursor :=
  match c.above with
  | ⟨mark, before, next :: after⟩ :: above =>
      some ⟨next, ⟨mark, c.focus :: before, after⟩ :: above⟩
  | _ => none

/-- The cursor on the parent. -/
def parent? (c : Cursor) : Option Cursor :=
  match c.above with
  | ⟨mark, before, after⟩ :: above =>
      some ⟨.node mark (before.reverse ++ c.focus :: after), above⟩
  | [] => none

/-- The number of siblings after the node. -/
def ahead (c : Cursor) : Nat :=
  match c.above with
  | frame :: _ => frame.after.length
  | [] => 0

mutual

/-- Copies the subtree under a cursor that stands at `depth`: the copy or the refusal, and where
the cursor is left. -/
def copyFrom (source : String) (depth : Nat) (c : Cursor) :
    Option (Except TooDeep Node × Cursor) :=
  if maxDepth < depth then
    some (.error .mk, c)
  else
    match c.firstChild? with
    | none => some (.ok (.node (c.mark.excerpt source) []), c)
    | some first => do
        let (children, last) ← copySiblingsFrom source (depth + 1) first
        match children with
        | .error e => some (.error e, last)
        | .ok children =>
            some (.ok (.node (c.mark.excerpt source) children), last.parent?.getD last)
termination_by (maxDepth + 1 - depth, 0)

/-- Copies the subtree under a cursor that stands at `depth`, and goes on with the next sibling of
the place where the cursor is left. -/
def copySiblingsFrom (source : String) (depth : Nat) (c : Cursor) :
    Option (Except TooDeep (List Node) × Cursor) := do
  let (node, left) ← copyFrom source depth c
  match node with
  | .error e => some (.error e, left)
  | .ok node =>
      match left.nextSibling? with
      | none => some (.ok [node], left)
      | some next =>
          if next.ahead < c.ahead then do
            let (rest, last) ← copySiblingsFrom source depth next
            some (rest.map (node :: ·), last)
          else
            none
termination_by (maxDepth + 1 - depth, c.ahead + 1)

end

end Cursor
end SnippetRubric
