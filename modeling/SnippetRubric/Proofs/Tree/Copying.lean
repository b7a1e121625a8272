import SnippetRubric.Tree.Copy

/-!
# What copying keeps

Copying a parse tree is an all-or-nothing affair: a tree that nests too deeply is refused, and any
other tree is copied node for node, with nothing but the texts added.  The main statements are

* `ParseTree.copyAt_eq` and `ParseTree.copy_eq`, the closed form of a copy: the depth test on the
  whole tree, and the relabelled tree when it passes;
* `Tree.Copied.height_le`, the bound on the height of every node taken out of a copy.
-/

namespace SnippetRubric
namespace Tree

section Height

variable {α β : Type}

@[simp] theorem height_node
    (a : α)
    (cs : List (Tree α)) :
    (node a cs).height = heightAll cs := by
  simp [height]

/-- Each tree of a list adds one level more than its own height. -/
theorem height_lt_heightAll_of_mem
    {c : Tree α} :
    ∀ {cs : List (Tree α)}, c ∈ cs → c.height < heightAll cs
  | d :: cs, h => by
      simp only [heightAll]
      rcases List.mem_cons.mp h with rfl | h
      · omega
      · have := height_lt_heightAll_of_mem h
        omega

/-- A list of trees adds no more levels than its highest member. -/
theorem heightAll_le
    {bound : Nat} :
    ∀ {cs : List (Tree α)}, (∀ c ∈ cs, c.height < bound) → heightAll cs ≤ bound
  | [], _ => by simp [heightAll]
  | d :: cs, h => by
      have hd := h d (by simp)
      have hcs := heightAll_le (fun c hc => h c (List.mem_cons_of_mem _ hc))
      simp only [heightAll]
      omega

theorem height_lt_of_mem_children
    {t c : Tree α}
    (h : c ∈ t.children) :
    c.height < t.height := by
  cases t with
  | node a cs =>
      rw [height_node]
      exact height_lt_heightAll_of_mem h

theorem IsSubtree.height_le
    {s t : Tree α}
    (h : IsSubtree s t) :
    s.height ≤ t.height := by
  induction h with
  | refl =>
      exact Nat.le_refl _
  | child member _ ih =>
      have := height_lt_of_mem_children member
      omega

@[simp] theorem label_map
    (f : α → β)
    (t : Tree α) :
    (t.map f).label = f t.label := by
  cases t
  simp [map]

mutual

theorem height_map (f : α → β) : ∀ t : Tree α, (t.map f).height = t.height
  | node a cs => by
      simp only [map, height]
      exact heightAll_mapAll f cs

theorem heightAll_mapAll (f : α → β) :
    ∀ cs : List (Tree α), heightAll (mapAll f cs) = heightAll cs
  | [] => by simp [mapAll, heightAll]
  | c :: cs => by
      simp only [mapAll, heightAll]
      rw [height_map f c, heightAll_mapAll f cs]

end

end Height

end Tree

namespace ParseTree

/-- The tree with the texts that its spans cover, at any depth. -/
def excerpted (source : String) (t : ParseTree) : Node :=
  Tree.map (Mark.excerpt source) t

mutual

/-- Copying tests the depth of the whole tree, and then adds nothing but the texts. -/
theorem copyAt_eq (source : String) (depth : Nat) :
    ∀ t : ParseTree,
      copyAt source depth t =
        if depth + t.height ≤ maxDepth then .ok (t.excerpted source) else .error .mk
  | .node mark children => by
      by_cases hdepth : maxDepth < depth
      · have hsum : ¬ depth + (Tree.node mark children).height ≤ maxDepth := by omega
        rw [copyAt, if_pos hdepth, if_neg hsum]
      · rw [copyAt, if_neg hdepth, copyAllAt_eq source depth (by omega) children,
          Tree.height_node]
        by_cases hsum : depth + Tree.heightAll children ≤ maxDepth
        · rw [if_pos hsum, if_pos hsum]
          rfl
        · rw [if_neg hsum, if_neg hsum]
          rfl

/-- A list of trees below a node at `depth` is copied when none of them nests too deeply. -/
theorem copyAllAt_eq (source : String) (depth : Nat) (hdepth : depth ≤ maxDepth) :
    ∀ ts : List ParseTree,
      copyAllAt source (depth + 1) ts =
        if depth + Tree.heightAll ts ≤ maxDepth then
          .ok (Tree.mapAll (Mark.excerpt source) ts)
        else
          .error .mk
  | [] => by
      simp [copyAllAt, Tree.heightAll, Tree.mapAll, hdepth]
  | t :: ts => by
      rw [copyAllAt, copyAt_eq source (depth + 1) t, copyAllAt_eq source depth hdepth ts]
      have hsplit :
          depth + Tree.heightAll (t :: ts) ≤ maxDepth ↔
            depth + 1 + t.height ≤ maxDepth ∧ depth + Tree.heightAll ts ≤ maxDepth := by
        simp only [Tree.heightAll]
        omega
      by_cases ht : depth + 1 + t.height ≤ maxDepth
      · by_cases hts : depth + Tree.heightAll ts ≤ maxDepth
        · simp [ht, hts, hsplit, Tree.mapAll, excerpted]
        · simp [ht, hts, hsplit]
      · by_cases hts : depth + Tree.heightAll ts ≤ maxDepth
        · simp [ht, hts, hsplit]
        · simp [ht, hts, hsplit]

end

/-- A whole tree is copied when it has no node below the deepest level. -/
theorem copy_eq
    (source : String)
    (t : ParseTree) :
    t.copy source =
      if t.height ≤ maxDepth then .ok (t.excerpted source) else .error .mk := by
  rw [copy, copyAt_eq, Nat.zero_add]

/-- A successful copy is the tree with its texts, and it was not too deep. -/
theorem copyAt_eq_ok_iff
    {source : String}
    {depth : Nat}
    {t : ParseTree}
    {root : Node} :
    copyAt source depth t = .ok root ↔
      depth + t.height ≤ maxDepth ∧ t.excerpted source = root := by
  rw [copyAt_eq]
  split
  · rename_i h
    simp [h]
  · rename_i h
    simp [h]

end ParseTree

namespace Tree

/-- The node was taken out of a copy of some parse tree of some source. -/
def Copied (n : Node) : Prop :=
  ∃ (source : String) (depth : Nat) (t : ParseTree) (root : Node),
    ParseTree.copyAt source depth t = .ok root ∧ n.IsSubtree root

/-- Nodes taken out of copies are never higher than the deepest level. -/
theorem Copied.height_le
    {n : Node}
    (h : n.Copied) :
    n.height ≤ maxDepth := by
  obtain ⟨source, depth, t, root, hcopy, hsub⟩ := h
  obtain ⟨hdepth, rfl⟩ := ParseTree.copyAt_eq_ok_iff.mp hcopy
  have hroot := hsub.height_le
  rw [ParseTree.excerpted, height_map] at hroot
  omega

end Tree
end SnippetRubric
