import SnippetRubric.Tree.Copy

/-!
# Agreement of nodes

Two nodes *agree* when they say the same, whatever the spacing, the semicolons and the comments:
their kinds are equal, their structural children agree pairwise, and where neither has structural
children their texts are equal.  The comparison goes at most `maxDepth` levels down and gives up
below.
-/

namespace SnippetRubric
namespace Tree

/-- Whether a child counts in a comparison. -/
def isStructural (n : Node) : Bool :=
  !(n.kind == ";" || n.kind == "comment")

/-- The children that count in a comparison. -/
def structuralChildren (n : Node) : List Node :=
  n.children.filter isStructural

/-- Compares two nodes on at most `levels` levels; nothing agrees on no level. -/
def agreesWithin : Nat → Node → Node → Bool
  | 0, _, _ => false
  | levels + 1, a, b =>
      a.kind == b.kind &&
        match a.structuralChildren, b.structuralChildren with
        | [], [] => a.text == b.text
        | as, bs =>
            as.length == bs.length &&
              (as.zip bs).all fun pair => agreesWithin levels pair.1 pair.2

/-- Whether two nodes say the same; the root is a level too. -/
def agrees (a b : Node) : Bool :=
  agreesWithin (maxDepth + 1) a b

end Tree

/-- Two absent nodes agree, and an absent node agrees with no present one. -/
def agree : Option Node → Option Node → Bool
  | none, none => true
  | some a, some b => a.agrees b
  | _, _ => false

end SnippetRubric
