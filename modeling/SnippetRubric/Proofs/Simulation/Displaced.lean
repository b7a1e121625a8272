import SnippetRubric.Proofs.Simulation.Node
import SnippetRubric.Proofs.Tree.Layout

/-!
# The same node at another place

A relation that keeps the kind, the field, the name flag and the text of a node, and that relates the
children of related nodes in order, is a simulation (`Pointwise.simulation`).  An instance is the
relation of nodes that differ in nothing but their spans (`Tree.Displaced`): no query can tell where
in a source a node stands.  The field that a node fills itself is read from above only, so that
queries on nodes that differ in it as well cannot tell these apart either (`Tree.Relocated`).

The tree of a text is displaced where the text stands behind another one (`Tree.displaced_shifted`).
-/

namespace SnippetRubric

section Pointwise

variable {R : Node → Node → Prop}

/-- A relation that keeps what is said of a node, apart from its span, and that holds of the children
in order. -/
structure Pointwise (R : Node → Node → Prop) : Prop where
  kind_eq : ∀ {a b}, R a b → a.kind = b.kind
  field_eq : ∀ {a b}, R a b → a.field = b.field
  named_eq : ∀ {a b}, R a b → a.named = b.named
  text_eq : ∀ {a b}, R a b → a.text = b.text
  children : ∀ {a b}, R a b → List.Forall₂ R a.children b.children

namespace Pointwise

variable (pw : Pointwise R) {a b : Node}
include pw

theorem child
    (h : R a b)
    (field : String) :
    Option.Rel R (a.child? field) (b.child? field) :=
  (pw.children h).find? fun _ _ hcd => by rw [pw.field_eq hcd]

theorem firstNamed
    (h : R a b) :
    Option.Rel R a.firstNamed? b.firstNamed? :=
  (pw.children h).find? fun _ _ hcd => pw.named_eq hcd

theorem childText_eq
    (h : R a b)
    (field : String) :
    a.childText? field = b.childText? field := by
  unfold Tree.childText?
  rcases (pw.child h field).eq_none_or_eq_some with ⟨ha, hb⟩ | ⟨c, d, ha, hb, hcd⟩
  · rw [ha, hb]
  · rw [ha, hb, Option.map_some, Option.map_some, pw.text_eq hcd]

/-- The members of a type literal are read from its children alone. -/
theorem literalMembers_of_children
    (h : List.Forall₂ R a.children b.children) :
    List.Forall₂ R a.literalMembers b.literalMembers := by
  refine (h.filter fun _ _ hcd => pw.named_eq hcd).filter fun c d hcd => ?_
  rw [(pw.child hcd "name").isSome_eq]

theorem hasToken_eq
    (h : R a b)
    (spelling : String) :
    a.hasToken spelling = b.hasToken spelling := by
  rw [Tree.hasToken, Tree.hasToken, ← List.isSome_find?, ← List.isSome_find?]
  refine ((pw.children h).find? fun c d hcd => ?_).isSome_eq
  rw [pw.named_eq hcd, pw.kind_eq hcd]

theorem structuralChildren
    (h : R a b) :
    List.Forall₂ R a.structuralChildren b.structuralChildren :=
  (pw.children h).filter fun c d hcd => by
    rw [Tree.isStructural, Tree.isStructural, pw.kind_eq hcd]

theorem normalForm_eq
    (h : R a b) :
    a.normalForm = b.normalForm := by
  induction a using Tree.children_induction generalizing b with
  | step a ih =>
      rw [Tree.normalForm_eq_normalForm_iff]
      refine ⟨pw.kind_eq h, ?_, fun _ => pw.text_eq h⟩
      have hchildren := pw.structuralChildren h
      rw [List.forall₂_iff_zip]
      refine ⟨hchildren.length_eq, fun {c d} hzip => ?_⟩
      have hc := List.mem_of_mem_filter (List.of_mem_zip hzip).1
      exact ih c hc (List.forall₂_zip hchildren hzip)

/-- No query can tell nodes apart that differ in nothing but their spans. -/
theorem simulation : Simulation R where
  kind_eq := pw.kind_eq
  child := pw.child
  childText_eq := fun h field _ => pw.childText_eq h field
  childrenOf := fun h shape _ => (pw.children h).filter fun c d hcd => by
    rw [Tree.shape, Tree.shape, pw.kind_eq hcd]
  statements := fun h => (pw.children h).filter fun c d hcd => by
    rw [Tree.isComment, Tree.isComment, pw.named_eq hcd, pw.kind_eq hcd]
  literalMembers := fun h => pw.literalMembers_of_children (pw.children h)
  typeClause := fun h => (pw.child h "type").bind fun _ _ hcd => pw.firstNamed hcd
  resultClause := fun h => (pw.child h "return_type").bind fun _ _ hcd => pw.firstNamed hcd
  hasToken_eq := fun h => pw.hasToken_eq h "?"
  number_eq := fun h _ => pw.text_eq h
  normalForm_eq := pw.normalForm_eq

end Pointwise
end Pointwise

/-- The excerpt with its span forgotten. -/
def Excerpt.unplaced (e : Excerpt) : Excerpt := { e with span := ⟨0, 0⟩ }

namespace Tree

/-- Nodes of the same kind in the same field.  What they cover may differ. -/
structure SameRole (n m : Node) : Prop where
  kind : n.kind = m.kind
  field : n.field = m.field
  named : n.named = m.named

instance (n m : Node) : Decidable (n.SameRole m) :=
  decidable_of_iff (n.kind = m.kind ∧ n.field = m.field ∧ n.named = m.named)
    ⟨fun h => ⟨h.1, h.2.1, h.2.2⟩, fun h => ⟨h.kind, h.field, h.named⟩⟩

theorem SameRole.shape
    {n m : Node}
    (h : n.SameRole m) :
    n.shape = m.shape := by
  rw [Tree.shape, Tree.shape, h.kind]

/-- The node with all spans forgotten. -/
def unplaced (n : Node) : Node := n.map Excerpt.unplaced

/-- The nodes differ in nothing but their spans. -/
def Displaced (a b : Node) : Prop := a.unplaced = b.unplaced

theorem Displaced.label_eq
    {a b : Node}
    (h : a.Displaced b) :
    a.label.unplaced = b.label.unplaced := by
  have hlabel := congrArg label h
  rwa [unplaced, unplaced, label_map, label_map] at hlabel

theorem forall₂_displaced_iff
    {as bs : List Node} :
    List.Forall₂ Displaced as bs ↔ as.map unplaced = bs.map unplaced := by
  rw [← List.forall₂_eq_eq_eq, List.forall₂_map_left_iff, List.forall₂_map_right_iff]
  rfl

theorem Displaced.children
    {a b : Node}
    (h : a.Displaced b) :
    List.Forall₂ Displaced a.children b.children := by
  cases a with
  | node x as =>
      cases b with
      | node y bs =>
          have hmapped := congrArg Tree.children h
          simp only [unplaced, map, children_node, mapAll_eq_map] at hmapped
          exact forall₂_displaced_iff.mpr hmapped

theorem pointwise_displaced : Pointwise Displaced where
  kind_eq := fun h => (congrArg (fun e : Excerpt => e.kind) h.label_eq :)
  field_eq := fun h => (congrArg (fun e : Excerpt => e.field) h.label_eq :)
  named_eq := fun h => (congrArg (fun e : Excerpt => e.named) h.label_eq :)
  text_eq := fun h => (congrArg (fun e : Excerpt => e.text) h.label_eq :)
  children := Displaced.children

theorem Displaced.sameRole
    {n m : Node}
    (h : n.Displaced m) :
    n.SameRole m :=
  ⟨pointwise_displaced.kind_eq h, pointwise_displaced.field_eq h, pointwise_displaced.named_eq h⟩

section Shifted

variable {α β γ : Type}

mutual

theorem map_map (g : β → γ) (f : α → β) : ∀ t : Tree α, (t.map f).map g = t.map (g ∘ f)
  | node a cs => by
      simp only [map, mapAll_mapAll g f cs]
      rfl

theorem mapAll_mapAll (g : β → γ) (f : α → β) :
    ∀ cs : List (Tree α), mapAll g (mapAll f cs) = mapAll (g ∘ f) cs
  | [] => by simp [mapAll]
  | c :: cs => by simp only [mapAll, map_map g f c, mapAll_mapAll g f cs]

end

end Shifted

section Relocated

variable {a b : Node}

/-- The node in another field. -/
def inField (field : Option String) (n : Node) : Node :=
  .node { n.label with field := field } n.children

theorem unplaced_inField
    (field : Option String)
    (n : Node) :
    (n.inField field).unplaced = n.unplaced.inField field := by
  cases n
  rfl

theorem Displaced.inField
    (h : a.Displaced b)
    (field : Option String) :
    (a.inField field).Displaced (b.inField field) := by
  rw [Displaced, unplaced_inField, unplaced_inField, h]

/-- The nodes differ in nothing but their spans and the fields that they fill themselves. -/
def Relocated (a b : Node) : Prop := (a.inField b.field).Displaced b

theorem Displaced.relocated
    (h : a.Displaced b) :
    a.Relocated b := by
  have hself : a.inField b.field = a := by
    rw [← pointwise_displaced.field_eq h]
    cases a
    rfl
  rwa [Relocated, hself]

theorem normalForm_inField
    (field : Option String)
    (n : Node) :
    (n.inField field).normalForm = n.normalForm := by
  rw [normalForm_eq, normalForm_eq]
  rfl

theorem Relocated.displaced
    (h : a.Relocated b) :
    (a.inField b.field).Displaced b :=
  h

theorem Relocated.text_eq
    (h : a.Relocated b) :
    a.text = b.text :=
  (pointwise_displaced.text_eq h.displaced :)

/-- Nothing that a query reads of a node depends on the field that the node fills. -/
theorem simulation_relocated : Simulation Relocated := by
  have sim := pointwise_displaced.simulation
  have relocated : ∀ a b : Node, a.Displaced b → a.Relocated b := fun _ _ h => h.relocated
  refine
    { kind_eq := fun h => (sim.kind_eq h.displaced :)
      child := fun h field => (sim.child h.displaced field).imp relocated
      childText_eq := fun h => (sim.childText_eq h.displaced :)
      childrenOf := fun h shape hshape => (sim.childrenOf h.displaced shape hshape).imp relocated
      statements := fun h => (sim.statements h.displaced).imp relocated
      literalMembers := fun h => (sim.literalMembers h.displaced).imp relocated
      typeClause := fun h => (sim.typeClause h.displaced).imp relocated
      resultClause := fun h => (sim.resultClause h.displaced).imp relocated
      hasToken_eq := fun h => (sim.hasToken_eq h.displaced :)
      number_eq := fun h => (sim.number_eq h.displaced :)
      normalForm_eq := fun h => ?_ }
  rw [← normalForm_inField, sim.normalForm_eq h.displaced]

end Relocated

end Tree

/-- The span so many bytes further on. -/
def Span.shifted (offset : Nat) (span : Span) : Span :=
  ⟨offset + span.start, offset + span.stop⟩

/-- The mark so many bytes further on. -/
def Mark.shifted (offset : Nat) (mark : Mark) : Mark :=
  { mark with span := mark.span.shifted offset }

/-- The tree so many bytes further on. -/
def ParseTree.shifted (offset : Nat) (t : ParseTree) : ParseTree :=
  t.map (Mark.shifted offset)

/-- A text covers the same behind another one. -/
theorem Span.slice_shifted
    (before text : String)
    (span : Span) :
    Span.slice (before ++ text) (span.shifted before.utf8ByteSize) = Span.slice text span := by
  have hextract := ByteArray.extract_append_size_add (a := before.toByteArray)
    (b := text.toByteArray) (i := span.start) (j := span.stop)
  rw [slice, slice, slice?, slice?, String.toUTF8_eq_toByteArray, String.toByteArray_append,
    shifted]
  exact congrArg (fun bytes => (String.fromUTF8? bytes).getD "") hextract

/-- A tree of a text stands displaced where the text stands behind another one. -/
theorem Tree.displaced_shifted
    (before text : String)
    (t : ParseTree) :
    Displaced ((t.shifted before.utf8ByteSize).excerpted (before ++ text)) (t.excerpted text) := by
  have hmark :
      (Excerpt.unplaced ∘ Mark.excerpt (before ++ text)) ∘ Mark.shifted before.utf8ByteSize =
        Excerpt.unplaced ∘ Mark.excerpt text := by
    funext mark
    simp [Excerpt.unplaced, Mark.excerpt, Mark.shifted, Span.slice_shifted]
  rw [Displaced, unplaced, unplaced, ParseTree.shifted, ParseTree.excerpted, ParseTree.excerpted,
    map_map, map_map, map_map, hmark]

/-- The same of the trees below a mark. -/
theorem Tree.forall₂_displaced_shifted
    (before text : String)
    {offset : Nat}
    (hoffset : before.utf8ByteSize = offset)
    (mark : Mark)
    (ts : List ParseTree) :
    List.Forall₂ Displaced
      (ParseTree.excerpted (before ++ text) (.node mark (ts.map (·.shifted offset)))).children
      (ts.map (·.excerpted text)) := by
  subst hoffset
  rw [ParseTree.excerpted, map, children_node, mapAll_eq_map, List.map_map,
    List.forall₂_map_left_iff, List.forall₂_map_right_iff]
  exact List.forall₂_same.mpr fun t _ => displaced_shifted before text t

end SnippetRubric
