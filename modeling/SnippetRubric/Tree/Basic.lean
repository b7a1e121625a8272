/-!
# Trees

A tree is a label and a list of trees below it.  The module holds the operations that do not
depend on what the labels are:

* `Tree.map` changes every label and keeps the form;
* `Tree.listing` writes a tree as its labels in preorder, each with its depth, and `Tree.ofListing`
  reads such a listing back;
* `Tree.height` is the number of levels below the root;
* `Tree.IsSubtree` says that a tree occurs in another one.
-/

namespace SnippetRubric

/-- A label and the trees below it, in order. -/
inductive Tree (α : Type) where
  | node (label : α) (children : List (Tree α))
deriving Repr

namespace Tree

variable {α β : Type}

instance [Inhabited α] : Inhabited (Tree α) := ⟨.node default []⟩

/-- The label at the root. -/
def label : Tree α → α
  | node a _ => a

/-- The trees right below the root. -/
def children : Tree α → List (Tree α)
  | node _ cs => cs

@[simp] theorem label_node (a : α) (cs : List (Tree α)) : (node a cs).label = a := rfl

@[simp] theorem children_node (a : α) (cs : List (Tree α)) : (node a cs).children = cs := rfl

/-- A child is smaller than its parent. -/
theorem sizeOf_lt_of_mem_children [SizeOf α] {t c : Tree α}
    (h : c ∈ t.children) : sizeOf c < sizeOf t := by
  cases t with
  | node a cs =>
    have := List.sizeOf_lt_of_mem h
    simp only [children_node, node.sizeOf_spec] at *
    omega

mutual

/-- The tree with every label changed by `f`. -/
def map (f : α → β) : Tree α → Tree β
  | node a cs => node (f a) (mapAll f cs)

/-- The trees of a list with every label changed by `f`. -/
def mapAll (f : α → β) : List (Tree α) → List (Tree β)
  | [] => []
  | c :: cs => map f c :: mapAll f cs

end

mutual

/-- The labels in preorder, each with its depth, where the root stands at `depth`. -/
def listing (depth : Nat) : Tree α → List (Nat × α)
  | node a cs => (depth, a) :: listingAll (depth + 1) cs

/-- The listings of a list of trees, one after the other. -/
def listingAll (depth : Nat) : List (Tree α) → List (Nat × α)
  | [] => []
  | c :: cs => listing depth c ++ listingAll depth cs

end

/-- The labels in preorder. -/
def preorder (t : Tree α) : List α :=
  (t.listing 0).map Prod.snd

mutual

/-- The number of levels below the root: zero for a leaf. -/
def height : Tree α → Nat
  | node _ cs => heightAll cs

/-- The number of levels that a list of trees adds below its parent. -/
def heightAll : List (Tree α) → Nat
  | [] => 0
  | c :: cs => max (height c + 1) (heightAll cs)

end

/-- The relation of a tree to every tree in which it occurs, itself included. -/
inductive IsSubtree : Tree α → Tree α → Prop where
  | refl (t : Tree α) : IsSubtree t t
  | child {s c t : Tree α} (member : c ∈ t.children) (below : IsSubtree s c) : IsSubtree s t

/-- One entry of a listing read from its end: the entries after it that stand deeper are its
children, and what follows them is left alone. -/
def gather (entry : Nat × α) (later : List (Nat × Tree α)) : List (Nat × Tree α) :=
  let below := later.takeWhile fun next => entry.1 < next.1
  (entry.1, node entry.2 (below.map Prod.snd)) :: later.dropWhile fun next => entry.1 < next.1

/-- The tree that a preorder listing with depths describes; none for the empty listing. -/
def ofListing (entries : List (Nat × α)) : Option (Tree α) :=
  (entries.foldr gather []).head?.map Prod.snd

/-- Mapping a list of trees is mapping each of them. -/
theorem mapAll_eq_map (f : α → β) : ∀ cs : List (Tree α), mapAll f cs = cs.map (map f)
  | [] => by simp [mapAll]
  | c :: cs => by simp [mapAll, mapAll_eq_map f cs]

/-- The listing of a list of trees is the concatenation of their listings. -/
theorem listingAll_eq_flatMap (depth : Nat) :
    ∀ cs : List (Tree α), listingAll depth cs = cs.flatMap (listing depth)
  | [] => by simp [listingAll]
  | c :: cs => by simp [listingAll, listingAll_eq_flatMap depth cs]

end Tree
end SnippetRubric
