import SnippetRubric.Proofs.Simulation.Node

/-!
# Equality up to layout

Two nodes are equal *up to layout* when they differ only in how the text is laid out: in semicolons,
in comments, and in the texts of nodes that are written out by the nodes below them.  The relation
keeps kinds, fields and names, the children that are not layout, and the texts of nodes that nothing
structural stands below, of numbers, and of what stands in a field whose text is read.

`LayoutRel` is the relation on trees without comments right below a type.  The main statement is
`LayoutRel.simulation`: no query can tell such trees apart.
-/

namespace SnippetRubric
namespace Tree

/-- What only lays a text out: an anonymous semicolon, or a comment with nothing below it, in no
field. -/
def isLayout (n : Node) : Bool :=
  n.field.isNone && ((n.kind == ";" && !n.named) || (n.kind == "comment" && n.children.isEmpty))

/-- The children that are not layout. -/
def significantChildren (n : Node) : List Node :=
  n.children.filter fun c => !c.isLayout

/-- Whether a node's own text counts: nothing structural stands below it, it is a number, or it is
in a field whose text is read. -/
def textCounts (n : Node) : Bool :=
  n.structuralChildren.isEmpty || n.kind == "number" ||
    readFields.any fun field => n.field == some field

/-- Equality up to layout: the same kind, field and name flag, children that are equal up to layout
once the layout is dropped, and the same text where it counts. -/
inductive EqualUpToLayout : Node → Node → Prop
  | intro
      {a b : Node}
      (kind : a.kind = b.kind)
      (field : a.field = b.field)
      (named : a.named = b.named)
      (children : List.Forall₂ EqualUpToLayout a.significantChildren b.significantChildren)
      (text : a.textCounts = true → a.text = b.text) :
      EqualUpToLayout a b

/-- Equality up to layout, one level at a time. -/
theorem equalUpToLayout_node
    (a b : Excerpt)
    (as bs : List Node) :
    (node a as).EqualUpToLayout (node b bs) ↔
      a.kind = b.kind ∧ a.field = b.field ∧ a.named = b.named ∧
        List.Forall₂ EqualUpToLayout (as.filter fun c => !c.isLayout)
          (bs.filter fun c => !c.isLayout) ∧
        ((node a as).textCounts = true → a.text = b.text) := by
  constructor
  · rintro ⟨hkind, hfield, hnamed, hchildren, htext⟩
    exact ⟨hkind, hfield, hnamed, hchildren, htext⟩
  · rintro ⟨hkind, hfield, hnamed, hchildren, htext⟩
    exact .intro hkind hfield hnamed hchildren htext

/-- No comment stands right below a node in a field that holds a type. -/
def TypesUncommented (n : Node) : Prop :=
  ∀ s : Node, s.IsSubtree n → s.field = some "type" ∨ s.field = some "return_type" →
    ∀ c ∈ s.children, c.isComment = false

theorem TypesUncommented.of_mem_children
    {n c : Node}
    (h : n.TypesUncommented)
    (hc : c ∈ n.children) :
    c.TypesUncommented :=
  fun s hs => h s (.child hc hs)

/-- Types are uncommented, one level at a time. -/
theorem typesUncommented_node
    (a : Excerpt)
    (cs : List Node) :
    (node a cs).TypesUncommented ↔
      (a.field = some "type" ∨ a.field = some "return_type" → ∀ c ∈ cs, c.isComment = false) ∧
        ∀ c ∈ cs, c.TypesUncommented := by
  constructor
  · intro h
    exact ⟨h _ (.refl _), fun c hc => h.of_mem_children hc⟩
  · rintro ⟨hroot, hchildren⟩ s hs
    cases hs with
    | refl =>
        exact hroot
    | child hc hs =>
        exact hchildren _ hc s hs

/-- Induction on the children of a tree. -/
@[elab_as_elim]
theorem children_induction
    {α : Type}
    {motive : Tree α → Prop}
    (step : ∀ t : Tree α, (∀ c ∈ t.children, motive c) → motive t)
    (t : Tree α) :
    motive t :=
  step t fun c _hc => children_induction step c
termination_by sizeOf t
decreasing_by exact sizeOf_lt_of_mem_children _hc

section LayoutNodes

variable {c : Node}

theorem isLayout_iff :
    c.isLayout = true ↔
      c.field = none ∧
        ((c.kind = ";" ∧ c.named = false) ∨ (c.kind = "comment" ∧ c.children = [])) := by
  simp [isLayout]

theorem shape_of_isLayout
    (h : c.isLayout = true) :
    c.shape = .other := by
  rcases (isLayout_iff.mp h).2 with ⟨hkind, _⟩ | ⟨hkind, _⟩
  · rw [shape, hkind]
    rfl
  · rw [shape, hkind]
    rfl

/-- A test keeps the same children with or without the layout, when it rejects the layout. -/
theorem filter_significantChildren
    (n : Node)
    {p : Node → Bool}
    (hp : ∀ c ∈ n.children, c.isLayout = true → p c = false) :
    n.significantChildren.filter p = n.children.filter p := by
  rw [significantChildren, List.filter_filter]
  apply List.filter_congr
  intro c hc
  cases hlayout : c.isLayout with
  | true =>
      simp [hp c hc hlayout]
  | false =>
      simp

end LayoutNodes

end Tree

open SnippetRubric.Tree

/-- Equality up to layout of trees without comments right below a type. -/
structure LayoutRel (a b : Node) : Prop where
  equal : a.EqualUpToLayout b
  left : a.TypesUncommented
  right : b.TypesUncommented

namespace LayoutRel

variable {a b : Node}

theorem kind_eq
    (h : LayoutRel a b) :
    a.kind = b.kind := by
  cases h.equal with
  | intro kind => exact kind

theorem field_eq
    (h : LayoutRel a b) :
    a.field = b.field := by
  cases h.equal with
  | intro _ field => exact field

theorem named_eq
    (h : LayoutRel a b) :
    a.named = b.named := by
  cases h.equal with
  | intro _ _ named => exact named

theorem text_eq
    (h : LayoutRel a b)
    (hcounts : a.textCounts = true) :
    a.text = b.text := by
  cases h.equal with
  | intro _ _ _ _ text => exact text hcounts

/-- The children that are not layout are related in order. -/
theorem significantChildren
    (h : LayoutRel a b) :
    List.Forall₂ LayoutRel a.significantChildren b.significantChildren := by
  cases h.equal with
  | intro _ _ _ children =>
      rw [List.forall₂_iff_zip]
      refine ⟨children.length_eq, fun {c d} hzip => ?_⟩
      obtain ⟨hc, hd⟩ := List.of_mem_zip hzip
      exact ⟨List.forall₂_zip children hzip,
        h.left.of_mem_children (List.mem_of_mem_filter hc),
        h.right.of_mem_children (List.mem_of_mem_filter hd)⟩

/-- A test that rejects the layout and gives the same answer on related children keeps related
children. -/
theorem filter_children
    (h : LayoutRel a b)
    {p : Node → Bool}
    (ha : ∀ c ∈ a.children, c.isLayout = true → p c = false)
    (hb : ∀ c ∈ b.children, c.isLayout = true → p c = false)
    (hp : ∀ c d, LayoutRel c d → p c = p d) :
    List.Forall₂ LayoutRel (a.children.filter p) (b.children.filter p) := by
  rw [← filter_significantChildren a ha, ← filter_significantChildren b hb]
  exact h.significantChildren.filter hp

/-- A search that rejects the layout and gives the same answer on related children finds related
children. -/
theorem find_children
    (h : LayoutRel a b)
    {p : Node → Bool}
    (ha : ∀ c ∈ a.children, c.isLayout = true → p c = false)
    (hb : ∀ c ∈ b.children, c.isLayout = true → p c = false)
    (hp : ∀ c d, LayoutRel c d → p c = p d) :
    Option.Rel LayoutRel (a.children.find? p) (b.children.find? p) := by
  rw [← List.head?_filter, ← List.head?_filter]
  exact (h.filter_children ha hb hp).head?

theorem child
    (h : LayoutRel a b)
    (field : String) :
    Option.Rel LayoutRel (a.child? field) (b.child? field) := by
  have hlayout : ∀ c : Node, c.isLayout = true → (c.field == some field) = false := by
    intro c hc
    simp [(isLayout_iff.mp hc).1]
  refine h.find_children (fun c _ => hlayout c) (fun c _ => hlayout c) fun c d hcd => ?_
  rw [hcd.field_eq]

/-- Children in a field whose text is read have the same text. -/
theorem childText_eq
    (h : LayoutRel a b)
    (field : String)
    (hfield : field ∈ readFields) :
    a.childText? field = b.childText? field := by
  unfold childText?
  rcases (h.child field).eq_none_or_eq_some with ⟨ha, hb⟩ | ⟨c, d, ha, hb, hcd⟩
  · rw [ha, hb]
  · have hc : c.field = some field := by
      simpa using List.find?_some ha
    have hcounts : c.textCounts = true := by
      simp only [textCounts, Bool.or_eq_true, List.any_eq_true]
      exact Or.inr ⟨field, hfield, by simp [hc]⟩
    rw [ha, hb, Option.map_some, Option.map_some, hcd.text_eq hcounts]

theorem childrenOf
    (h : LayoutRel a b)
    (shape : Shape)
    (hshape : shape ≠ .other) :
    List.Forall₂ LayoutRel (a.childrenOf shape) (b.childrenOf shape) := by
  have hlayout : ∀ c : Node, c.isLayout = true → (c.shape == shape) = false := by
    intro c hc
    simp [shape_of_isLayout hc, hshape.symm]
  refine h.filter_children (fun c _ => hlayout c) (fun c _ => hlayout c) fun c d hcd => ?_
  rw [Tree.shape, Tree.shape, hcd.kind_eq]

theorem statements
    (h : LayoutRel a b) :
    List.Forall₂ LayoutRel a.statements b.statements := by
  have hlayout : ∀ c : Node, c.isLayout = true → (c.named && !c.isComment) = false := by
    intro c hc
    rcases (isLayout_iff.mp hc).2 with ⟨_, hnamed⟩ | ⟨hkind, _⟩
    · simp [hnamed]
    · simp [isComment, hkind]
  refine h.filter_children (fun c _ => hlayout c) (fun c _ => hlayout c) fun c d hcd => ?_
  rw [isComment, isComment, hcd.named_eq, hcd.kind_eq]

/-- A comment with nothing below it has no name, so that it is no member of a type literal. -/
theorem literalMembers
    (h : LayoutRel a b) :
    List.Forall₂ LayoutRel a.literalMembers b.literalMembers := by
  have hlayout : ∀ c : Node, c.isLayout = true →
      ((c.child? "name").isSome && c.named) = false := by
    intro c hc
    rcases (isLayout_iff.mp hc).2 with ⟨_, hnamed⟩ | ⟨_, hchildren⟩
    · simp [hnamed]
    · simp [child?, hchildren]
  simp only [Tree.literalMembers, namedChildren, List.filter_filter]
  refine h.filter_children (fun c _ => hlayout c) (fun c _ => hlayout c) fun c d hcd => ?_
  rw [hcd.named_eq, (hcd.child "name").isSome_eq]

/-- The first named child of a node in a type field is no comment. -/
theorem firstNamed
    (h : LayoutRel a b)
    (hfield : a.field = some "type" ∨ a.field = some "return_type") :
    Option.Rel LayoutRel a.firstNamed? b.firstNamed? := by
  have hlayout : ∀ c : Node, c.isComment = false → c.isLayout = true → c.named = false := by
    intro c hcomment hc
    rcases (isLayout_iff.mp hc).2 with ⟨_, hnamed⟩ | ⟨hkind, _⟩
    · exact hnamed
    · simp [isComment, hkind] at hcomment
  refine h.find_children ?_ ?_ fun c d hcd => hcd.named_eq
  · intro c hc
    exact hlayout c (h.left a (.refl a) hfield c hc)
  · intro c hc
    rw [h.field_eq] at hfield
    exact hlayout c (h.right b (.refl b) hfield c hc)

theorem typeClause
    (h : LayoutRel a b)
    (field : String)
    (hfield : field = "type" ∨ field = "return_type") :
    Option.Rel LayoutRel ((a.child? field).bind firstNamed?)
      ((b.child? field).bind firstNamed?) := by
  rcases (h.child field).eq_none_or_eq_some with ⟨ha, hb⟩ | ⟨c, d, ha, hb, hcd⟩
  · rw [ha, hb]
    exact .none
  · have hc : c.field = some field := by
      simpa using List.find?_some ha
    rw [ha, hb]
    exact hcd.firstNamed (by simpa [hc] using hfield)

theorem hasToken_eq
    (h : LayoutRel a b) :
    a.hasToken "?" = b.hasToken "?" := by
  have hlayout : ∀ c : Node, c.isLayout = true → (!c.named && c.kind == "?") = false := by
    intro c hc
    rcases (isLayout_iff.mp hc).2 with ⟨hkind, _⟩ | ⟨hkind, _⟩
    · simp [hkind]
    · simp [hkind]
  have hfind := h.find_children (fun c _ => hlayout c) (fun c _ => hlayout c) fun c d hcd => by
    rw [hcd.named_eq, hcd.kind_eq]
  rw [hasToken, hasToken, ← List.isSome_find?, ← List.isSome_find?]
  exact hfind.isSome_eq

theorem structuralChildren
    (h : LayoutRel a b) :
    List.Forall₂ LayoutRel a.structuralChildren b.structuralChildren := by
  have hlayout : ∀ c : Node, c.isLayout = true → c.isStructural = false := by
    intro c hc
    rcases (isLayout_iff.mp hc).2 with ⟨hkind, _⟩ | ⟨hkind, _⟩
    · simp [isStructural, hkind]
    · simp [isStructural, hkind]
  refine h.filter_children (fun c _ => hlayout c) (fun c _ => hlayout c) fun c d hcd => ?_
  rw [isStructural, isStructural, hcd.kind_eq]

/-- Layout does not show in the normal form. -/
theorem normalForm_eq
    (h : LayoutRel a b) :
    a.normalForm = b.normalForm := by
  induction a using children_induction generalizing b with
  | step a ih =>
      rw [normalForm_eq_normalForm_iff]
      refine ⟨h.kind_eq, ?_, ?_⟩
      · have hchildren := h.structuralChildren
        rw [List.forall₂_iff_zip]
        refine ⟨hchildren.length_eq, fun {c d} hzip => ?_⟩
        have hc := List.mem_of_mem_filter (List.of_mem_zip hzip).1
        exact ih c hc (List.forall₂_zip hchildren hzip)
      · intro hnil
        exact h.text_eq (by simp [textCounts, hnil])

/-- No query can tell trees apart that are equal up to layout. -/
theorem simulation : Simulation LayoutRel where
  kind_eq := kind_eq
  child := child
  childText_eq := childText_eq
  childrenOf := childrenOf
  statements := statements
  literalMembers := literalMembers
  typeClause := fun h => h.typeClause "type" (Or.inl rfl)
  resultClause := fun h => h.typeClause "return_type" (Or.inr rfl)
  hasToken_eq := hasToken_eq
  number_eq := fun h hkind => h.text_eq (by simp [textCounts, hkind])
  normalForm_eq := normalForm_eq

end LayoutRel
end SnippetRubric
