import Mathlib.Tactic.MkIffOfInductiveProp
import SnippetRubric.Proofs.Tree.Preorder

/-!
# Source order

The spans of a tree are *nested* when those of the children of a node lie in the span of the node,
one after the other (`Tree.SpansNested`).  A parser promises this of its trees.  Nested spans stay
so in a copy (`Tree.SpansNested.map`), and a node anywhere below another one lies in its span
(`Tree.SpansNested.within_of_isSubtree`).

The preorder of a tree is the order in which its nodes start (`Tree.pairwise_preorder`).  This takes
two conditions on the children of each node: they start in order inside the node
(`Tree.StartsInOrder`), and each ends before the next one starts (`Tree.EndsInOrder`).
-/

namespace SnippetRubric
namespace Span

theorem Within.refl
    (s : Span) :
    s.Within s :=
  ⟨Nat.le_refl _, Nat.le_refl _⟩

theorem Within.trans
    {r s t : Span}
    (hrs : r.Within s)
    (hst : s.Within t) :
    r.Within t :=
  ⟨Nat.le_trans hst.1 hrs.1, Nat.le_trans hrs.2 hst.2⟩

/-- What lies in one span comes before what lies in a later one. -/
theorem Before.of_within
    {r s r' s' : Span}
    (h : r.Before s)
    (hr : r'.Within r)
    (hs : s'.Within s) :
    r'.Before s' :=
  Nat.le_trans hr.2 (Nat.le_trans h hs.1)

end Span

namespace Tree

variable {α β : Type}

section Subtrees

theorem children_map
    (f : α → β)
    (t : Tree α) :
    (t.map f).children = t.children.map (map f) := by
  cases t with
  | node a cs =>
      rw [map, children_node, children_node, mapAll_eq_map]

/-- What occurs in a changed tree is a changed part of the tree. -/
theorem exists_of_isSubtree_map
    {f : α → β}
    {t : Tree α}
    {s : Tree β}
    (h : IsSubtree s (t.map f)) :
    ∃ r, IsSubtree r t ∧ s = r.map f := by
  generalize hu : t.map f = u at h
  induction h generalizing t with
  | refl =>
      exact ⟨t, .refl t, hu.symm⟩
  | child member _ ih =>
      rw [← hu, children_map] at member
      obtain ⟨c, hc, hcu⟩ := List.mem_map.mp member
      obtain ⟨r, hr, hs⟩ := ih hcu
      exact ⟨r, .child hc hr, hs⟩

end Subtrees

/-- Everywhere in a tree the spans of the children of a node lie in the span of the node, and each
ends no later than the next ones start. -/
structure SpansNested (span : α → Span) (t : Tree α) : Prop where
  within : ∀ s, IsSubtree s t → ∀ c ∈ s.children, (span c.label).Within (span s.label)
  siblings : ∀ s, IsSubtree s t →
    s.children.Pairwise fun c d => (span c.label).Before (span d.label)

namespace SpansNested

variable {span : α → Span} {s t : Tree α}

theorem of_isSubtree
    (h : t.SpansNested span)
    (hs : IsSubtree s t) :
    s.SpansNested span where
  within := fun r hr => h.within r (hr.trans hs)
  siblings := fun r hr => h.siblings r (hr.trans hs)

theorem within_of_isSubtree
    (h : t.SpansNested span)
    (hs : IsSubtree s t) :
    (span s.label).Within (span t.label) := by
  induction hs with
  | refl =>
      exact .refl _
  | child member _ ih =>
      have hchild := h.of_isSubtree (.of_mem_children member)
      exact (ih hchild).trans (h.within _ (.refl _) _ member)

theorem map
    (f : α → β)
    (span : β → Span)
    (h : t.SpansNested fun a => span (f a)) :
    (t.map f).SpansNested span := by
  constructor
  · intro s hs c hc
    obtain ⟨r, hr, rfl⟩ := exists_of_isSubtree_map hs
    rw [children_map] at hc
    obtain ⟨d, hd, rfl⟩ := List.mem_map.mp hc
    rw [label_map, label_map]
    exact h.within r hr d hd
  · intro s hs
    obtain ⟨r, hr, rfl⟩ := exists_of_isSubtree_map hs
    rw [children_map, List.pairwise_map]
    simp only [label_map]
    exact h.siblings r hr

end SpansNested

theorem spansNested_node
    {span : α → Span}
    {a : α}
    {cs : List (Tree α)} :
    (node a cs).SpansNested span ↔
      (∀ c ∈ cs, (span c.label).Within (span a)) ∧
        cs.Pairwise (fun c d => (span c.label).Before (span d.label)) ∧
        ∀ c ∈ cs, c.SpansNested span := by
  constructor
  · intro h
    exact ⟨h.within _ (.refl _), h.siblings _ (.refl _),
      fun c hc => h.of_isSubtree (.of_mem_children hc)⟩
  · rintro ⟨hwithin, hsiblings, hbelow⟩
    constructor
    · intro s hs
      rcases isSubtree_node_iff.mp hs with rfl | ⟨c, hc, hs⟩
      · exact hwithin
      · exact (hbelow c hc).within s hs
    · intro s hs
      rcases isSubtree_node_iff.mp hs with rfl | ⟨c, hc, hs⟩
      · exact hsiblings
      · exact (hbelow c hc).siblings s hs

/-- The children of a node start one after the other, and each inside the span of the node. -/
@[mk_iff]
structure StartsInOrder (span : α → Span) (s : Tree α) : Prop where
  inside : ∀ c ∈ s.children,
    (span s.label).start ≤ (span c.label).start ∧ (span c.label).start ≤ (span s.label).stop
  siblings : s.children.Pairwise fun c d => (span c.label).start ≤ (span d.label).start

/-- The children of a node end before the next ones start, and none later than the node: a parser
reads a node where it is done with the one before it. -/
@[mk_iff]
structure EndsInOrder (span : α → Span) (s : Tree α) : Prop where
  inside : ∀ c ∈ s.children, (span c.label).stop ≤ (span s.label).stop
  siblings : s.children.Pairwise fun c d => (span c.label).Before (span d.label)

/-- A property of nodes that every node of a tree has. -/
def Everywhere (P : Tree α → Prop) (t : Tree α) : Prop :=
  ∀ s, IsSubtree s t → P s

section Everywhere

variable {P : Tree α → Prop}

theorem Everywhere.of_mem_children
    {c t : Tree α}
    (h : t.Everywhere P)
    (hc : c ∈ t.children) :
    c.Everywhere P :=
  fun s hs => h s (.child hc hs)

theorem everywhere_node
    {a : α}
    {cs : List (Tree α)} :
    (node a cs).Everywhere P ↔ P (node a cs) ∧ ∀ c ∈ cs, c.Everywhere P := by
  constructor
  · intro h
    exact ⟨h _ (.refl _), fun c hc => h.of_mem_children hc⟩
  · rintro ⟨hroot, hbelow⟩ s hs
    rcases isSubtree_node_iff.mp hs with rfl | ⟨c, hc, hs⟩
    · exact hroot
    · exact hbelow c hc s hs

end Everywhere

section Starts

variable {span : α → Span}

/-- No node starts before one that it stands below. -/
theorem start_le_of_isSubtree
    {s t : Tree α}
    (hstarts : t.Everywhere (StartsInOrder span))
    (hs : IsSubtree s t) :
    (span t.label).start ≤ (span s.label).start := by
  induction hs with
  | refl =>
      exact Nat.le_refl _
  | child member _ ih =>
      exact Nat.le_trans ((hstarts _ (.refl _)).inside _ member).1
        (ih (hstarts.of_mem_children member))

/-- Every node starts before one that it stands below ends. -/
theorem start_le_stop_of_isSubtree
    {s c t : Tree α}
    (hstarts : t.Everywhere (StartsInOrder span))
    (hends : t.Everywhere (EndsInOrder span))
    (hc : c ∈ t.children)
    (hs : IsSubtree s c) :
    (span s.label).start ≤ (span t.label).stop := by
  induction hs generalizing t with
  | refl =>
      exact ((hstarts t (.refl t)).inside _ hc).2
  | child member _ ih =>
      exact Nat.le_trans (ih (hstarts.of_mem_children hc) (hends.of_mem_children hc) member)
        ((hends t (.refl t)).inside _ hc)

mutual

/-- Nodes are listed in the order in which they start. -/
theorem pairwise_listing
    (depth : Nat) :
    ∀ {t : Tree α}, t.Everywhere (StartsInOrder span) → t.Everywhere (EndsInOrder span) →
      ((t.listing depth).map Prod.snd).Pairwise fun a b => (span a).start ≤ (span b).start
  | node a cs, hstarts, hends => by
      rw [listing, List.map_cons, List.pairwise_cons]
      constructor
      · intro b hb
        obtain ⟨c, hc, s, hs, rfl⟩ := (mem_listingAll_iff b (depth + 1) cs).mp hb
        exact start_le_of_isSubtree hstarts (.child hc hs)
      · exact pairwise_listingAll (depth + 1) (fun c hc => hstarts.of_mem_children hc)
          (fun c hc => hends.of_mem_children hc) (hstarts _ (.refl _)).siblings
          (hends _ (.refl _)).siblings

theorem pairwise_listingAll
    (depth : Nat) :
    ∀ {cs : List (Tree α)}, (∀ c ∈ cs, c.Everywhere (StartsInOrder span)) →
      (∀ c ∈ cs, c.Everywhere (EndsInOrder span)) →
      cs.Pairwise (fun c d => (span c.label).start ≤ (span d.label).start) →
      cs.Pairwise (fun c d => (span c.label).Before (span d.label)) →
      ((listingAll depth cs).map Prod.snd).Pairwise fun a b => (span a).start ≤ (span b).start
  | [], _, _, _, _ => by
      simp [listingAll]
  | c :: cs, hstarts, hends, hfirst, hlast => by
      obtain ⟨hfirst, hfirsts⟩ := List.pairwise_cons.mp hfirst
      obtain ⟨hlast, hlasts⟩ := List.pairwise_cons.mp hlast
      rw [listingAll, List.map_append, List.pairwise_append]
      refine ⟨pairwise_listing depth (hstarts c (by simp)) (hends c (by simp)),
        pairwise_listingAll depth (fun d hd => hstarts d (List.mem_cons_of_mem c hd))
          (fun d hd => hends d (List.mem_cons_of_mem c hd)) hfirsts hlasts, ?_⟩
      intro a ha b hb
      obtain ⟨r, hr, rfl⟩ := (mem_listing_iff a depth c).mp ha
      obtain ⟨d, hd, s, hs, rfl⟩ := (mem_listingAll_iff b depth cs).mp hb
      -- the second node stands below a later sibling, which starts behind all of the first one
      refine Nat.le_trans ?_
        (start_le_of_isSubtree (hstarts d (List.mem_cons_of_mem c hd)) hs)
      cases hr with
      | refl =>
          exact hfirst d hd
      | child member below =>
          exact Nat.le_trans
            (start_le_stop_of_isSubtree (hstarts c (by simp)) (hends c (by simp)) member below)
            (hlast d hd)

end

/-- The preorder of a tree is the order in which its nodes start. -/
theorem pairwise_preorder
    {t : Tree α}
    (hstarts : t.Everywhere (StartsInOrder span))
    (hends : t.Everywhere (EndsInOrder span)) :
    t.preorder.Pairwise fun a b => (span a).start ≤ (span b).start :=
  pairwise_listing 0 hstarts hends

end Starts

end Tree
end SnippetRubric
