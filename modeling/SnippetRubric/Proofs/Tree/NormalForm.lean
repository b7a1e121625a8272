import Mathlib.Data.List.Forall2
import SnippetRubric.Proofs.Tree.Copying
import SnippetRubric.Tree.Agreement

/-!
# Normal forms

The *normal form* of a node keeps what a comparison reads: the kinds, the structural children, and
the text of a node without structural children.  Semicolons and comments are gone at every level,
and fields, spans and flags are forgotten.

`Tree.agreesWithin_iff` says that a comparison on some levels decides equality of normal forms that
fit into them.  The main statement is `agree_iff_normalForm_eq`: without a bound on the trees the
comparison decides equality of normal forms of at most `maxDepth` levels; on nodes taken out of
copies the bound never decides, and agreement is an equivalence relation.
-/

namespace SnippetRubric

/-- What a comparison reads of one node: its kind, and its text where it has nothing below it. -/
structure Imprint where
  kind : String
  text : Option String
deriving DecidableEq, Repr, Inhabited

/-- What a comparison reads of a whole node. -/
abbrev NormalForm := Tree Imprint

namespace Tree

mutual

/-- The normal form of a node. -/
def normalForm : Node → NormalForm
  | node excerpt cs =>
      node
        { kind := excerpt.kind
          text := if (normalFormAll cs).isEmpty then some excerpt.text else none }
        (normalFormAll cs)

/-- The normal forms of the structural nodes of a list. -/
def normalFormAll : List Node → List NormalForm
  | [] => []
  | c :: cs => if c.isStructural then normalForm c :: normalFormAll cs else normalFormAll cs

end

theorem normalFormAll_eq_map :
    ∀ cs : List Node, normalFormAll cs = (cs.filter isStructural).map normalForm
  | [] => by simp [normalFormAll]
  | c :: cs => by
      by_cases h : c.isStructural
      · simp [normalFormAll, h, normalFormAll_eq_map cs]
      · simp [normalFormAll, h, normalFormAll_eq_map cs]

/-- The normal form in terms of the structural children. -/
theorem normalForm_eq
    (n : Node) :
    n.normalForm =
      node ⟨n.kind, if n.structuralChildren.isEmpty then some n.text else none⟩
        (n.structuralChildren.map normalForm) := by
  cases n with
  | node excerpt cs =>
      simp [normalForm, normalFormAll_eq_map, structuralChildren, kind, text]

mutual

theorem height_normalForm_le : ∀ n : Node, n.normalForm.height ≤ n.height
  | node excerpt cs => by
      simp only [normalForm, height]
      exact heightAll_normalFormAll_le cs

/-- Leaving out what is not structural adds no level. -/
theorem heightAll_normalFormAll_le :
    ∀ cs : List Node, heightAll (normalFormAll cs) ≤ heightAll cs
  | [] => by simp [normalFormAll, heightAll]
  | c :: cs => by
      have hc := height_normalForm_le c
      have hcs := heightAll_normalFormAll_le cs
      rw [normalFormAll]
      split
      · simp only [heightAll]
        omega
      · simp only [heightAll]
        omega

end

/-- Normal forms are equal when the kinds are, the structural children have equal normal forms in
order, and the texts of nodes without structural children are equal. -/
theorem normalForm_eq_normalForm_iff
    (a b : Node) :
    a.normalForm = b.normalForm ↔
      a.kind = b.kind ∧
        List.Forall₂ (fun c d => c.normalForm = d.normalForm)
          a.structuralChildren b.structuralChildren ∧
        (a.structuralChildren = [] → a.text = b.text) := by
  have hmap :
      a.structuralChildren.map normalForm = b.structuralChildren.map normalForm ↔
        List.Forall₂ (fun c d => c.normalForm = d.normalForm)
          a.structuralChildren b.structuralChildren := by
    rw [← List.forall₂_eq_eq_eq, List.forall₂_map_left_iff, List.forall₂_map_right_iff]
  rw [normalForm_eq a, normalForm_eq b, node.injEq, Imprint.mk.injEq, and_assoc, hmap]
  constructor
  · rintro ⟨hkind, htext, hchildren⟩
    refine ⟨hkind, hchildren, fun hnil => ?_⟩
    have hnil' : b.structuralChildren = [] := by
      rw [hnil] at hchildren
      exact List.forall₂_nil_left_iff.mp hchildren
    simpa [hnil, hnil'] using htext
  · rintro ⟨hkind, hchildren, htext⟩
    refine ⟨hkind, ?_, hchildren⟩
    by_cases hnil : a.structuralChildren = []
    · have hnil' : b.structuralChildren = [] := by
        rw [hnil] at hchildren
        exact List.forall₂_nil_left_iff.mp hchildren
      simp [hnil, hnil', htext hnil]
    · have hnil' : b.structuralChildren ≠ [] := by
        intro h
        rw [h] at hchildren
        exact hnil (List.forall₂_nil_right_iff.mp hchildren)
      simp [hnil, hnil']

/-- A normal form has at most so many levels when those of the structural children have fewer. -/
theorem height_normalForm_le_iff
    (n : Node)
    (levels : Nat) :
    n.normalForm.height ≤ levels ↔
      ∀ c ∈ n.structuralChildren, c.normalForm.height < levels := by
  rw [normalForm_eq, height_node]
  constructor
  · intro h c hc
    have := height_lt_heightAll_of_mem (List.mem_map_of_mem (f := normalForm) hc)
    omega
  · intro h
    apply heightAll_le
    intro form hform
    obtain ⟨c, hc, rfl⟩ := List.mem_map.mp hform
    exact h c hc

/-- One level of a comparison: the kinds, the structural children in order, and the texts of nodes
without structural children. -/
theorem agreesWithin_succ_iff
    (levels : Nat)
    (a b : Node) :
    agreesWithin (levels + 1) a b = true ↔
      a.kind = b.kind ∧
        List.Forall₂ (fun c d => agreesWithin levels c d = true)
          a.structuralChildren b.structuralChildren ∧
        (a.structuralChildren = [] → a.text = b.text) := by
  rw [agreesWithin, Bool.and_eq_true, beq_iff_eq]
  cases ha : a.structuralChildren with
  | nil =>
      cases hb : b.structuralChildren with
      | nil =>
          simp
      | cons d ds =>
          simp
  | cons c cs =>
      simp [List.forall₂_iff_zip]

/-- A comparison on some levels decides equality of normal forms that fit into them. -/
theorem agreesWithin_iff
    (levels : Nat)
    (a b : Node) :
    agreesWithin levels a b = true ↔
      a.normalForm.height < levels ∧ a.normalForm = b.normalForm := by
  induction levels generalizing a b with
  | zero =>
      simp [agreesWithin]
  | succ levels ih =>
      rw [agreesWithin_succ_iff, normalForm_eq_normalForm_iff, Nat.lt_succ_iff,
        height_normalForm_le_iff]
      simp only [ih]
      rw [List.forall₂_and_left]
      tauto

end Tree

section Agreement

theorem agree_some_iff
    (a b : Node) :
    agree (some a) (some b) = true ↔
      a.normalForm = b.normalForm ∧ a.normalForm.height ≤ maxDepth := by
  rw [agree, Tree.agrees, Tree.agreesWithin_iff, Nat.lt_succ_iff, and_comm]

/-- On nodes taken out of copies the bound on the levels never decides. -/
theorem agree_some_iff_of_copied
    {a : Node}
    (ha : a.Copied)
    (b : Node) :
    agree (some a) (some b) = true ↔ a.normalForm = b.normalForm := by
  have hheight : a.normalForm.height ≤ maxDepth :=
    Nat.le_trans a.height_normalForm_le ha.height_le
  rw [agree_some_iff, and_iff_left hheight]

/-- A node that may be absent, taken out of a copy if there is one, agrees with what has the same
normal form. -/
theorem agree_iff_map_normalForm_eq
    {x : Option Node}
    (hx : ∀ a, x = some a → a.Copied)
    (y : Option Node) :
    agree x y = true ↔ x.map Tree.normalForm = y.map Tree.normalForm := by
  cases x with
  | none =>
      cases y with
      | none =>
          simp [agree]
      | some b =>
          simp [agree]
  | some a =>
      cases y with
      | none =>
          simp [agree]
      | some b =>
          simp [agree_some_iff_of_copied (hx a rfl)]

/-- Optional nodes taken out of copies agree when both are absent or their normal forms are
equal. -/
theorem agree_map_val_iff
    (x y : Option {n : Node // n.Copied}) :
    agree (x.map Subtype.val) (y.map Subtype.val) = true ↔
      x.map (fun n => n.1.normalForm) = y.map (fun n => n.1.normalForm) := by
  have hx : ∀ a, x.map Subtype.val = some a → a.Copied := by
    intro a ha
    obtain ⟨n, _, rfl⟩ := Option.map_eq_some_iff.mp ha
    exact n.2
  rw [agree_iff_map_normalForm_eq hx, Option.map_map, Option.map_map]
  rfl

/-- Agreement is equality of normal forms of at most `maxDepth` levels.  On nodes taken out of
copies it is equality of normal forms, and an equivalence relation on optional ones. -/
theorem agree_iff_normalForm_eq :
    (∀ a b : Node,
      agree (some a) (some b) = true ↔
        a.normalForm = b.normalForm ∧ a.normalForm.height ≤ maxDepth) ∧
    (∀ a b : Node, a.Copied → b.Copied →
      (agree (some a) (some b) = true ↔ a.normalForm = b.normalForm)) ∧
    Equivalence fun x y : Option {n : Node // n.Copied} =>
      agree (x.map Subtype.val) (y.map Subtype.val) = true := by
  refine ⟨agree_some_iff, fun a b ha _ => agree_some_iff_of_copied ha b, ?_⟩
  constructor
  · intro x
    exact (agree_map_val_iff x x).mpr rfl
  · intro x y hxy
    rw [agree_map_val_iff] at hxy ⊢
    exact hxy.symm
  · intro x y z hxy hyz
    rw [agree_map_val_iff] at hxy hyz ⊢
    exact hxy.trans hyz

/-- The statement `x;` as a parser sees it, with its semicolon. -/
def semicolonSample : ParseTree :=
  .node ⟨"expression_statement", none, true, false, ⟨0, 2⟩⟩
    [.node ⟨"identifier", none, true, false, ⟨0, 1⟩⟩ [],
     .node ⟨";", none, false, false, ⟨1, 2⟩⟩ []]

/-- The statement `x // y` as a parser sees it, with its comment. -/
def commentSample : ParseTree :=
  .node ⟨"expression_statement", none, true, false, ⟨0, 6⟩⟩
    [.node ⟨"identifier", none, true, false, ⟨0, 1⟩⟩ [],
     .node ⟨"comment", none, true, false, ⟨2, 6⟩⟩ []]

/-- Copies of two different sources agree: the semicolon and the comment do not count. -/
theorem agree_semicolonSample_commentSample :
    (semicolonSample.excerpted "x;").Copied ∧
      (commentSample.excerpted "x // y").Copied ∧
      agree (some (semicolonSample.excerpted "x;"))
        (some (commentSample.excerpted "x // y")) = true := by
  have ha : (semicolonSample.excerpted "x;").Copied :=
    ⟨"x;", 0, semicolonSample, _, rfl, .refl _⟩
  have hb : (commentSample.excerpted "x // y").Copied :=
    ⟨"x // y", 0, commentSample, _, rfl, .refl _⟩
  have htext : Span.slice "x;" ⟨0, 1⟩ = Span.slice "x // y" ⟨0, 1⟩ := by decide
  have hforms :
      (semicolonSample.excerpted "x;").normalForm =
        (commentSample.excerpted "x // y").normalForm := by
    simp [semicolonSample, commentSample, ParseTree.excerpted, Tree.map, Tree.mapAll,
      Mark.excerpt, Tree.normalForm, Tree.normalFormAll, Tree.isStructural, Tree.kind, htext]
  exact ⟨ha, hb, (agree_iff_normalForm_eq.2.1 _ _ ha hb).mpr hforms⟩

end Agreement
end SnippetRubric
