import SnippetRubric.Proofs.Tree.Copying
import SnippetRubric.Tree.Damage

/-!
# Preorder, subtrees and damage

The preorder of a tree holds the labels of its subtrees (`Tree.mem_preorder_iff`), and changing the
labels changes nothing else about it (`Tree.preorder_map`).  Two traversals ask for damage: the list
of damaged places is collected from a parse tree at any depth, and `Tree.hasDamage` looks through a
copy.  Both follow the preorder (`PlacedTree.damage_eq_map_filter_preorder`), so that they agree
(`ParseTree.hasDamage_excerpted`, `ParseTree.verdict_eq_ok_iff`).
-/

namespace SnippetRubric
namespace Tree

variable {α β : Type}

section Subtrees

theorem IsSubtree.of_mem_children
    {c t : Tree α}
    (h : c ∈ t.children) :
    IsSubtree c t :=
  .child h (.refl c)

theorem IsSubtree.trans
    {r s t : Tree α}
    (hrs : IsSubtree r s)
    (hst : IsSubtree s t) :
    IsSubtree r t := by
  induction hst with
  | refl =>
      exact hrs
  | child member _ ih =>
      exact .child member ih

theorem isSubtree_node_iff
    {s : Tree α}
    {a : α}
    {cs : List (Tree α)} :
    IsSubtree s (node a cs) ↔ s = node a cs ∨ ∃ c ∈ cs, IsSubtree s c := by
  constructor
  · intro h
    cases h with
    | refl =>
        exact Or.inl rfl
    | child member below =>
        exact Or.inr ⟨_, member, below⟩
  · rintro (rfl | ⟨c, hc, hs⟩)
    · exact .refl _
    · exact .child hc hs

end Subtrees

section Preorder

mutual

theorem listing_map (f : α → β) (depth : Nat) :
    ∀ t : Tree α, (t.map f).listing depth = (t.listing depth).map (Prod.map id f)
  | node a cs => by
      simp only [map, listing, List.map_cons, Prod.map_apply, id_eq]
      rw [listingAll_mapAll f (depth + 1) cs]

theorem listingAll_mapAll (f : α → β) (depth : Nat) :
    ∀ cs : List (Tree α),
      listingAll depth (mapAll f cs) = (listingAll depth cs).map (Prod.map id f)
  | [] => by simp [mapAll, listingAll]
  | c :: cs => by
      simp only [mapAll, listingAll, List.map_append]
      rw [listing_map f depth c, listingAll_mapAll f depth cs]

end

theorem preorder_map
    (f : α → β)
    (t : Tree α) :
    (t.map f).preorder = t.preorder.map f := by
  rw [preorder, preorder, listing_map, List.map_map, List.map_map]
  rfl

mutual

theorem mem_listing_iff (a : α) (depth : Nat) :
    ∀ t : Tree α,
      a ∈ (t.listing depth).map Prod.snd ↔ ∃ s, IsSubtree s t ∧ s.label = a
  | node b cs => by
      have hrest := mem_listingAll_iff a (depth + 1) cs
      rw [listing, List.map_cons, List.mem_cons, hrest]
      constructor
      · rintro (rfl | ⟨c, hc, s, hs, hlabel⟩)
        · exact ⟨node a cs, .refl _, rfl⟩
        · exact ⟨s, .child hc hs, hlabel⟩
      · rintro ⟨s, hs, rfl⟩
        rcases isSubtree_node_iff.mp hs with rfl | ⟨c, hc, hs⟩
        · exact Or.inl rfl
        · exact Or.inr ⟨c, hc, s, hs, rfl⟩

theorem mem_listingAll_iff (a : α) (depth : Nat) :
    ∀ cs : List (Tree α),
      a ∈ (listingAll depth cs).map Prod.snd ↔ ∃ c ∈ cs, ∃ s, IsSubtree s c ∧ s.label = a
  | [] => by simp [listingAll]
  | c :: cs => by
      have hfirst := mem_listing_iff a depth c
      have hrest := mem_listingAll_iff a depth cs
      rw [listingAll, List.map_append, List.mem_append, hfirst, hrest]
      simp

end

theorem mem_preorder_iff
    {a : α}
    {t : Tree α} :
    a ∈ t.preorder ↔ ∃ s, IsSubtree s t ∧ s.label = a :=
  mem_listing_iff a 0 t

end Preorder

/-- A node is without damage when no node of its tree is damaged. -/
theorem hasDamage_eq_false_iff
    {n : Node} :
    n.hasDamage = false ↔ ∀ s : Node, s.IsSubtree n → s.damaged = false := by
  rw [hasDamage, List.any_eq_false]
  constructor
  · intro h s hs
    simpa [damaged] using h s.label (mem_preorder_iff.mpr ⟨s, hs, rfl⟩)
  · intro h a ha
    obtain ⟨s, hs, rfl⟩ := mem_preorder_iff.mp ha
    simpa [damaged] using h s hs

end Tree

namespace PlacedTree

mutual

/-- A walk through a tree adds its damaged marks, in preorder, to what was found before. -/
theorem collectDamage_eq_append (found : List Damage) (depth : Nat) :
    ∀ t : PlacedTree,
      collectDamage found t =
        found ++ (((t.listing depth).map Prod.snd).filter (·.damaged)).map .ofMark
  | .node mark children => by
      rw [collectDamage, Tree.listing, List.map_cons]
      cases hmark : mark.damaged with
      | false =>
          rw [if_neg Bool.false_ne_true,
            collectDamageAll_eq_append found (depth + 1) children,
            List.filter_cons_of_neg (by simp [hmark])]
      | true =>
          rw [if_pos rfl, collectDamageAll_eq_append _ (depth + 1) children,
            List.filter_cons_of_pos (by simp [hmark]), List.map_cons, List.append_assoc,
            List.singleton_append]

theorem collectDamageAll_eq_append (found : List Damage) (depth : Nat) :
    ∀ ts : List PlacedTree,
      collectDamageAll found ts =
        found ++ (((Tree.listingAll depth ts).map Prod.snd).filter (·.damaged)).map .ofMark
  | [] => by
      simp [collectDamageAll, Tree.listingAll]
  | t :: ts => by
      rw [collectDamageAll, collectDamage_eq_append found depth t,
        collectDamageAll_eq_append _ depth ts, Tree.listingAll, List.map_append,
        List.filter_append, List.map_append, List.append_assoc]

end

/-- The damaged places of a tree come from its damaged marks, in preorder. -/
theorem damage_eq_map_filter_preorder
    (t : PlacedTree) :
    t.damage = (t.preorder.filter (·.damaged)).map .ofMark := by
  rw [damage, collectDamage_eq_append [] 0 t, List.nil_append]
  rfl

/-- What a verdict says of the damaged places. -/
theorem verdict_cases
    (t : PlacedTree) :
    (t.damage = [] ∧ t.verdict = .ok ()) ∨
      (∃ place, t.damage = [place] ∧ t.verdict = .error (.single place)) ∨
      (2 ≤ t.damage.length ∧ t.verdict = .error (.several t.damage.length)) := by
  rw [verdict]
  cases t.damage with
  | nil =>
      exact Or.inl ⟨rfl, rfl⟩
  | cons place places =>
      cases places with
      | nil =>
          exact Or.inr (Or.inl ⟨place, rfl, rfl⟩)
      | cons _ rest =>
          exact Or.inr (Or.inr ⟨Nat.le_add_left 2 rest.length, rfl⟩)

theorem verdict_eq_ok_iff_damage_eq_nil
    {t : PlacedTree} :
    t.verdict = .ok () ↔ t.damage = [] := by
  obtain ⟨hdamage, hverdict⟩ | ⟨place, hdamage, hverdict⟩ | ⟨hdamage, hverdict⟩ :=
    verdict_cases t
  · simp [hdamage, hverdict]
  · simp [hdamage, hverdict]
  · have hne : t.damage ≠ [] := by
      intro hnil
      simp [hnil] at hdamage
    simp [hverdict, hne]

end PlacedTree

namespace ParseTree

theorem hasDamage_excerpted
    (source : String)
    (t : ParseTree) :
    (t.excerpted source).hasDamage = hasDamage t := by
  rw [Tree.hasDamage, excerpted, Tree.preorder_map, List.any_map, hasDamage]
  rfl

/-- A parse tree is accepted when it is without damage, at any depth. -/
theorem verdict_eq_ok_iff
    (source : String)
    (t : ParseTree) :
    t.verdict source = .ok () ↔ hasDamage t = false := by
  rw [verdict, PlacedTree.verdict_eq_ok_iff_damage_eq_nil,
    PlacedTree.damage_eq_map_filter_preorder, List.map_eq_nil_iff, placed, Tree.preorder_map,
    List.filter_map, List.map_eq_nil_iff, List.filter_eq_nil_iff, hasDamage, List.any_eq_false]
  rfl

end ParseTree
end SnippetRubric
