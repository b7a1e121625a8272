import SnippetRubric.Proofs.Tree.Preorder
import SnippetRubric.Tree.Cursor

/-!
# Copying with a cursor

All parts of a copy share one cursor.  What holds the copy together is where each part leaves it:
the copy of a subtree leaves the cursor on the node where it started, and the copy of siblings
leaves it below the parent of the first one.  The second fact is the invariant of the walk through
siblings (`Cursor.walks_copySiblingsFrom`), the first one follows from it by induction on the tree
(`Cursor.walks_copyFrom`).  Both say too that the walk always gets ahead, and that it ends with the
result of the recursion on the tree.

The main statement is `Cursor.copyFrom_copies_and_returns`.
-/

namespace SnippetRubric
namespace Tree

variable {α : Type}

mutual

/-- All nodes keep to a bound, counted from `base`, when the height of the tree does. -/
theorem forall_mem_listing_le_iff (base bound depth : Nat) :
    ∀ t : Tree α,
      (∀ entry ∈ t.listing depth, base + entry.1 ≤ bound) ↔ base + depth + t.height ≤ bound
  | node a cs => by
      rw [listing, List.forall_mem_cons, height_node]
      exact forall_mem_listingAll_le_iff base bound depth cs

theorem forall_mem_listingAll_le_iff (base bound depth : Nat) :
    ∀ cs : List (Tree α),
      (base + depth ≤ bound ∧ ∀ entry ∈ listingAll (depth + 1) cs, base + entry.1 ≤ bound) ↔
        base + depth + heightAll cs ≤ bound
  | [] => by simp [listingAll, heightAll]
  | c :: cs => by
      have hfirst := forall_mem_listing_le_iff base bound (depth + 1) c
      have hrest := forall_mem_listingAll_le_iff base bound depth cs
      rw [listingAll, List.forall_mem_append, hfirst, heightAll]
      constructor
      · rintro ⟨hdepth, hc, hcs⟩
        have := hrest.mp ⟨hdepth, hcs⟩
        omega
      · intro hheight
        obtain ⟨hdepth, hcs⟩ := hrest.mpr (by omega)
        exact ⟨hdepth, by omega, hcs⟩

end

end Tree

namespace ParseTree

theorem copyAllAt_cons_of_error
    {source : String}
    {depth : Nat}
    {t : ParseTree}
    {ts : List ParseTree}
    {e : TooDeep}
    (h : copyAt source depth t = .error e) :
    copyAllAt source depth (t :: ts) = .error e := by
  rw [copyAllAt, h]

theorem copyAllAt_cons_of_ok
    {source : String}
    {depth : Nat}
    {t : ParseTree}
    {ts : List ParseTree}
    {n : Node}
    (h : copyAt source depth t = .ok n) :
    copyAllAt source depth (t :: ts) = (copyAllAt source depth ts).map (n :: ·) := by
  rw [copyAllAt, h]
  cases copyAllAt source depth ts with
  | error e =>
      rfl
  | ok ns =>
      rfl

/-- A tree is copied when none of its nodes lies too deep. -/
theorem copyAt_isOk_iff
    (source : String)
    (depth : Nat)
    (t : ParseTree) :
    (∃ n, copyAt source depth t = .ok n) ↔
      ∀ entry ∈ t.listing 0, depth + entry.1 ≤ maxDepth := by
  rw [Tree.forall_mem_listing_le_iff, Nat.add_zero]
  simp [copyAt_eq_ok_iff]

/-- Without its texts, the listing of a copy is the listing of the tree. -/
theorem listing_excerpted
    (source : String)
    (depth : Nat)
    (t : ParseTree) :
    ((t.excerpted source).listing depth).map (Prod.map id Excerpt.toMark) = t.listing depth := by
  rw [excerpted, Tree.listing_map, List.map_map]
  exact List.map_id _

/-- Every node of a copy has the text that its span covers. -/
theorem text_of_isSubtree_excerpted
    {source : String}
    {t : ParseTree}
    {s : Node}
    (h : s.IsSubtree (t.excerpted source)) :
    s.text = s.span.slice source := by
  have hlabel : s.label ∈ (t.excerpted source).preorder := Tree.mem_preorder_iff.mpr ⟨s, h, rfl⟩
  rw [excerpted, Tree.preorder_map] at hlabel
  obtain ⟨mark, _, hmark⟩ := List.mem_map.mp hlabel
  rw [Tree.text, Tree.span, ← hmark]
  rfl

end ParseTree

namespace Cursor

section Steps

variable {source : String} {depth : Nat} {c left : Cursor}

theorem copyFrom_of_lt
    (h : maxDepth < depth) :
    copyFrom source depth c = some (.error .mk, c) := by
  rw [copyFrom.eq_def, if_pos h]

theorem copyFrom_of_leaf
    (h : depth ≤ maxDepth)
    (hchild : c.firstChild? = none) :
    copyFrom source depth c = some (.ok (.node (c.mark.excerpt source) []), c) := by
  rw [copyFrom.eq_def, if_neg (by omega), hchild]

/-- The copy of a node with children goes back to the parent of the last child. -/
theorem copyFrom_of_children
    {first last : Cursor}
    {children : Except TooDeep (List Node)}
    (h : depth ≤ maxDepth)
    (hchild : c.firstChild? = some first)
    (hwalk : copySiblingsFrom source (depth + 1) first = some (children, last)) :
    copyFrom source depth c =
      some (children.map (.node (c.mark.excerpt source)),
        if children.isOk then last.parent?.getD last else last) := by
  rw [copyFrom.eq_def, if_neg (by omega), hchild]
  simp only [hwalk, Option.bind_eq_bind, Option.bind_some]
  cases children with
  | error e =>
      rfl
  | ok children =>
      rfl

theorem copySiblingsFrom_of_error
    {e : TooDeep}
    (hwalk : copyFrom source depth c = some (.error e, left)) :
    copySiblingsFrom source depth c = some (.error e, left) := by
  rw [copySiblingsFrom.eq_def, hwalk]
  rfl

theorem copySiblingsFrom_of_last
    {n : Node}
    (hwalk : copyFrom source depth c = some (.ok n, left))
    (hnext : left.nextSibling? = none) :
    copySiblingsFrom source depth c = some (.ok [n], left) := by
  rw [copySiblingsFrom.eq_def, hwalk]
  simp only [hnext, Option.bind_eq_bind, Option.bind_some]

theorem copySiblingsFrom_of_next
    {n : Node}
    {next last : Cursor}
    {rest : Except TooDeep (List Node)}
    (hwalk : copyFrom source depth c = some (.ok n, left))
    (hnext : left.nextSibling? = some next)
    (hahead : next.ahead < c.ahead)
    (hrest : copySiblingsFrom source depth next = some (rest, last)) :
    copySiblingsFrom source depth c = some (rest.map (n :: ·), last) := by
  rw [copySiblingsFrom.eq_def, hwalk]
  simp only [hnext, hahead, hrest, Option.bind_eq_bind, Option.bind_some, if_true]

end Steps

/-- A walk ends with a result, and where it succeeds it leaves the cursor at an expected place. -/
def Walks {α : Type} (walk : Option (Except TooDeep α × Cursor)) (result : Except TooDeep α)
    (expected : Cursor → Prop) : Prop :=
  ∃ left, walk = some (result, left) ∧ ∀ a, result = .ok a → expected left

theorem Walks.of_error
    {α : Type}
    {walk : Option (Except TooDeep α × Cursor)}
    {expected : Cursor → Prop}
    {e : TooDeep}
    {left : Cursor}
    (h : walk = some (.error e, left)) :
    Walks walk (.error e) expected :=
  ⟨left, h, fun _ hok => nomatch hok⟩

theorem Walks.of_ok
    {α : Type}
    {walk : Option (Except TooDeep α × Cursor)}
    {expected : Cursor → Prop}
    {a : α}
    {left : Cursor}
    (h : walk = some (.ok a, left))
    (hleft : expected left) :
    Walks walk (.ok a) expected :=
  ⟨left, h, fun _ _ => hleft⟩

/-- The walk through siblings copies all of them and stays below their parent, if each copy on the
way returns to where it started. -/
theorem walks_copySiblingsFrom
    (source : String)
    (depth : Nat)
    (mark : Mark)
    (above : List Frame)
    (ts : List ParseTree)
    (t : ParseTree)
    (before : List ParseTree)
    (htrees : ∀ s ∈ t :: ts, ∀ frames,
      Walks (copyFrom source depth ⟨s, frames⟩) (ParseTree.copyAt source depth s)
        (· = ⟨s, frames⟩)) :
    Walks (copySiblingsFrom source depth ⟨t, ⟨mark, before, ts⟩ :: above⟩)
      (ParseTree.copyAllAt source depth (t :: ts))
      (·.parent? = some ⟨.node mark (before.reverse ++ t :: ts), above⟩) := by
  -- The siblings that are copied move over to the other side of the cursor, one at a time.
  induction ts generalizing t before with
  | nil =>
      obtain ⟨left, hwalk, hleft⟩ := htrees t (by simp) (⟨mark, before, []⟩ :: above)
      cases hcopy : ParseTree.copyAt source depth t with
      | error e =>
          rw [hcopy] at hwalk
          rw [ParseTree.copyAllAt_cons_of_error hcopy]
          exact .of_error (copySiblingsFrom_of_error hwalk)
      | ok n =>
          rw [hcopy, hleft n hcopy] at hwalk
          rw [ParseTree.copyAllAt_cons_of_ok hcopy]
          exact .of_ok (copySiblingsFrom_of_last hwalk rfl) rfl
  | cons next rest ih =>
      obtain ⟨left, hwalk, hleft⟩ := htrees t (by simp) (⟨mark, before, next :: rest⟩ :: above)
      cases hcopy : ParseTree.copyAt source depth t with
      | error e =>
          rw [hcopy] at hwalk
          rw [ParseTree.copyAllAt_cons_of_error hcopy]
          exact .of_error (copySiblingsFrom_of_error hwalk)
      | ok n =>
          rw [hcopy, hleft n hcopy] at hwalk
          rw [ParseTree.copyAllAt_cons_of_ok hcopy]
          obtain ⟨last, hrest, hlast⟩ :=
            ih next (t :: before) fun s hs => htrees s (List.mem_cons_of_mem t hs)
          have hall := copySiblingsFrom_of_next hwalk rfl (Nat.lt_succ_self rest.length) hrest
          cases hcopies : ParseTree.copyAllAt source depth (next :: rest) with
          | error e =>
              rw [hcopies] at hall
              exact .of_error hall
          | ok ns =>
              rw [hcopies] at hall
              exact .of_ok hall (by simpa using hlast ns hcopies)

/-- The walk through a subtree copies it and returns to where it started. -/
theorem walks_copyFrom
    (source : String) :
    ∀ (t : ParseTree) (depth : Nat) (above : List Frame),
      Walks (copyFrom source depth ⟨t, above⟩) (ParseTree.copyAt source depth t)
        (· = ⟨t, above⟩)
  | .node mark children, depth, above => by
      by_cases hdepth : maxDepth < depth
      · rw [ParseTree.copyAt, if_pos hdepth]
        exact .of_error (copyFrom_of_lt hdepth)
      · rw [ParseTree.copyAt, if_neg hdepth]
        cases children with
        | nil =>
            exact .of_ok (copyFrom_of_leaf (by omega) rfl) rfl
        | cons t ts =>
            have htrees : ∀ s ∈ t :: ts, ∀ frames,
                Walks (copyFrom source (depth + 1) ⟨s, frames⟩)
                  (ParseTree.copyAt source (depth + 1) s) (· = ⟨s, frames⟩) :=
              fun s _hs frames => walks_copyFrom source s (depth + 1) frames
            obtain ⟨last, hwalk, hlast⟩ :=
              walks_copySiblingsFrom source (depth + 1) mark above ts t [] htrees
            have hall :=
              copyFrom_of_children (c := ⟨.node mark (t :: ts), above⟩) (by omega) rfl hwalk
            cases hcopies : ParseTree.copyAllAt source (depth + 1) (t :: ts) with
            | error e =>
                rw [hcopies] at hall
                exact .of_error hall
            | ok ns =>
                rw [hcopies] at hall
                refine .of_ok hall ?_
                simp [Except.isOk, Except.toBool, hlast ns hcopies]
termination_by t => sizeOf t
decreasing_by exact Tree.sizeOf_lt_of_mem_children (t := .node mark (t :: ts)) _hs

/-- Copying with a cursor gives an answer, wherever the cursor stands, and does what the recursion
on the tree does.  It succeeds when no node of the subtree lies too deep, and refuses the subtree
otherwise.  A copy has the same marks in the same order and at the same levels as the subtree, each
of its nodes has the shape of its kind and the text of its span, and the cursor is left where it
was.  For a copy of the whole tree under the cursor the deepest level is counted from its root. -/
theorem copyFrom_copies_and_returns
    (source : String)
    (depth : Nat)
    (c : Cursor) :
    (∃ result left,
      copyFrom source depth c = some (result, left) ∧
        result = ParseTree.copyAt source depth c.focus ∧
        ((∃ n, result = .ok n) ↔ ∀ entry ∈ c.focus.listing 0, depth + entry.1 ≤ maxDepth) ∧
        ((¬ ∀ entry ∈ c.focus.listing 0, depth + entry.1 ≤ maxDepth) → result = .error .mk) ∧
        ∀ n, result = .ok n →
          left = c ∧
            (n.listing 0).map (Prod.map id Excerpt.toMark) = c.focus.listing 0 ∧
            ∀ s : Node, s.IsSubtree n →
              s.shape = Shape.ofKind s.kind ∧ s.text = s.span.slice source) ∧
      ((∃ n, c.focus.copy source = .ok n) ↔ ∀ entry ∈ c.focus.listing 0, entry.1 ≤ maxDepth) := by
  obtain ⟨left, hwalk, hleft⟩ := walks_copyFrom source c.focus depth c.above
  constructor
  · refine ⟨_, left, hwalk, rfl, ParseTree.copyAt_isOk_iff source depth c.focus, ?_, ?_⟩
    · intro hdeep
      rw [ParseTree.copyAt_eq, if_neg]
      rwa [Tree.forall_mem_listing_le_iff] at hdeep
    · intro n hn
      obtain ⟨_, rfl⟩ := ParseTree.copyAt_eq_ok_iff.mp hn
      exact ⟨hleft _ hn, ParseTree.listing_excerpted source 0 c.focus,
        fun s hs => ⟨rfl, ParseTree.text_of_isSubtree_excerpted hs⟩⟩
  · simpa [ParseTree.copy] using ParseTree.copyAt_isOk_iff source 0 c.focus

end Cursor
end SnippetRubric
