import SnippetRubric.Proofs.Simulation.Handle
import SnippetRubric.Proofs.Tree.Layout

/-!
# Callees are compared by their texts

Whether an initializer is a call to `callee` is decided by the text of what is called.  Two nodes
that agree and have their structural children in the same fields (`Tree.Alike`) have initializers
that are calls together, of callees that agree (`Handle.agree_callee?`).  A callee without structural
children, such as a name, then has the same text in both.  Any other callee can be spaced
differently, and there the two declarations are told apart.

The main statement is `Handle.isCallTo_of_alike`, and `Handle.isCallTo_of_spacedSample` is an
instance of declarations that are alike and call `a.b` and `a . b`.
-/

namespace SnippetRubric
namespace Tree

/-- Structural children stand in the same fields, at every level. -/
inductive SameFields : Node → Node → Prop
  | intro
      {a b : Node}
      (fields : List.Forall₂ (fun c d => c.field = d.field) a.structuralChildren
        b.structuralChildren)
      (children : List.Forall₂ SameFields a.structuralChildren b.structuralChildren) :
      SameFields a b

/-- Structural children stand in the same fields, one level at a time. -/
theorem sameFields_node
    (a b : Excerpt)
    (as bs : List Node) :
    (node a as).SameFields (node b bs) ↔
      List.Forall₂ (fun c d => c.field = d.field) (as.filter isStructural)
        (bs.filter isStructural) ∧
      List.Forall₂ SameFields (as.filter isStructural) (bs.filter isStructural) := by
  constructor
  · rintro ⟨hfields, hchildren⟩
    exact ⟨hfields, hchildren⟩
  · rintro ⟨hfields, hchildren⟩
    exact .intro hfields hchildren

/-- Nodes that agree and have their structural children in the same fields. -/
structure Alike (a b : Node) : Prop where
  agrees : a.agrees b = true
  fields : a.SameFields b

/-- No semicolon and no comment fills the field of a value or of a callee. -/
def LayoutUnread (n : Node) : Prop :=
  ∀ s : Node, s.IsSubtree n → ∀ c ∈ s.children, c.isStructural = false →
    c.field ≠ some "value" ∧ c.field ≠ some "function"

theorem LayoutUnread.of_mem_children
    {n c : Node}
    (h : n.LayoutUnread)
    (hc : c ∈ n.children) :
    c.LayoutUnread :=
  fun s hs => h s (.child hc hs)

/-- The fields are not filled by semicolons and comments, one level at a time. -/
theorem layoutUnread_node
    (a : Excerpt)
    (cs : List Node) :
    (node a cs).LayoutUnread ↔
      (∀ c ∈ cs, c.isStructural = false → c.field ≠ some "value" ∧ c.field ≠ some "function") ∧
        ∀ c ∈ cs, c.LayoutUnread := by
  constructor
  · intro h
    exact ⟨h _ (.refl _), fun c hc => h.of_mem_children hc⟩
  · rintro ⟨hroot, hchildren⟩ s hs
    cases hs with
    | refl =>
        exact hroot
    | child hc hs =>
        exact hchildren _ hc s hs

/-- A child in a field is searched among the structural children where nothing else fills the
field. -/
theorem child?_eq_find?_structuralChildren
    {n : Node}
    {field : String}
    (h : ∀ c ∈ n.children, c.isStructural = false → c.field ≠ some field) :
    n.child? field = n.structuralChildren.find? fun c => c.field == some field := by
  rw [child?, structuralChildren, ← List.head?_filter, ← List.head?_filter, List.filter_filter]
  congr 1
  apply List.filter_congr
  intro c hc
  cases hstructural : c.isStructural with
  | true =>
      simp
  | false =>
      simpa using h c hc hstructural

theorem shape_of_not_isStructural
    {c : Node}
    (h : c.isStructural = false) :
    c.shape = .other := by
  have hkind : c.kind = ";" ∨ c.kind = "comment" := by
    simpa [isStructural, or_iff_not_imp_left] using h
  rcases hkind with hkind | hkind
  · rw [shape, hkind]
    rfl
  · rw [shape, hkind]
    rfl

/-- Declarators are structural. -/
theorem declarators_eq_filter_structuralChildren
    (n : Node) :
    n.declarators = n.structuralChildren.filter fun c => c.shape == .declarator := by
  rw [declarators, childrenOf, structuralChildren, List.filter_filter]
  apply List.filter_congr
  intro c _
  cases hstructural : c.isStructural with
  | true =>
      simp
  | false =>
      simp [shape_of_not_isStructural hstructural]

namespace Alike

variable {a b : Node}

theorem normalForms
    (h : a.Alike b) :
    a.normalForm = b.normalForm ∧ a.normalForm.height ≤ maxDepth :=
  (agree_some_iff a b).mp h.agrees

theorem kind_eq
    (h : a.Alike b) :
    a.kind = b.kind :=
  ((normalForm_eq_normalForm_iff a b).mp h.normalForms.1).1

theorem shape_eq
    (h : a.Alike b) :
    a.shape = b.shape := by
  rw [shape, shape, h.kind_eq]

/-- Where nothing structural stands below a node, its text counts. -/
theorem text_eq
    (h : a.Alike b)
    (hleaf : a.structuralChildren = []) :
    a.text = b.text :=
  ((normalForm_eq_normalForm_iff a b).mp h.normalForms.1).2.2 hleaf

/-- The structural children of nodes that are alike are alike, in the same fields. -/
theorem structuralChildren
    (h : a.Alike b) :
    List.Forall₂ (fun c d => c.field = d.field ∧ c.Alike d) a.structuralChildren
      b.structuralChildren := by
  obtain ⟨hforms, hheight⟩ := h.normalForms
  obtain ⟨_, hchildren, _⟩ := (normalForm_eq_normalForm_iff a b).mp hforms
  obtain ⟨hfields, hbelow⟩ := h.fields
  rw [List.forall₂_iff_zip] at hchildren hfields hbelow ⊢
  refine ⟨hchildren.1, fun {c d} hzip => ⟨hfields.2 hzip, ?_, hbelow.2 hzip⟩⟩
  have hc := (List.of_mem_zip hzip).1
  have hlevels := (height_normalForm_le_iff a maxDepth).mp hheight c hc
  exact (agree_some_iff c d).mpr ⟨hchildren.2 hzip, by omega⟩

end Alike

/-- Nodes that are alike, without semicolons and comments in the fields that are read. -/
structure ReadAlike (a b : Node) : Prop extends Alike a b where
  unread : a.LayoutUnread
  unread' : b.LayoutUnread

namespace ReadAlike

variable {a b : Node}

theorem child
    (h : a.ReadAlike b)
    {field : String}
    (hfield : field = "value" ∨ field = "function") :
    Option.Rel ReadAlike (a.child? field) (b.child? field) := by
  have hunread : ∀ {n : Node}, n.LayoutUnread →
      ∀ c ∈ n.children, c.isStructural = false → c.field ≠ some field := by
    intro n hn c hc hlayout
    have hfields := hn n (.refl n) c hc hlayout
    rcases hfield with rfl | rfl
    · exact hfields.1
    · exact hfields.2
  have hfound := h.structuralChildren.find? (p := fun c => c.field == some field)
    (q := fun c => c.field == some field) fun c d hcd => by rw [hcd.1]
  rw [← child?_eq_find?_structuralChildren (hunread h.unread),
    ← child?_eq_find?_structuralChildren (hunread h.unread')] at hfound
  refine hfound.imp_of_eq_some fun c d hc hd hcd => ⟨hcd.2, ?_, ?_⟩
  · exact h.unread.of_mem_children (List.mem_of_find?_eq_some hc)
  · exact h.unread'.of_mem_children (List.mem_of_find?_eq_some hd)

theorem firstDeclarator
    (h : a.ReadAlike b) :
    Option.Rel ReadAlike a.declarators.head? b.declarators.head? := by
  have hdeclarators := h.structuralChildren.filter (p := fun c => c.shape == .declarator)
    (q := fun c => c.shape == .declarator) fun c d hcd => by rw [hcd.2.shape_eq]
  rw [← declarators_eq_filter_structuralChildren, ← declarators_eq_filter_structuralChildren]
    at hdeclarators
  refine hdeclarators.head?.imp_of_eq_some fun c d hc hd hcd => ⟨hcd.2, ?_, ?_⟩
  · exact h.unread.of_mem_children (List.mem_of_mem_filter (List.mem_of_head? hc))
  · exact h.unread'.of_mem_children (List.mem_of_mem_filter (List.mem_of_head? hd))

/-- Declarations that are alike have initializers that are alike. -/
theorem initializer
    (h : a.ReadAlike b) :
    Option.Rel ReadAlike a.initializer? b.initializer? := by
  unfold Tree.initializer?
  rw [h.shape_eq]
  split
  · exact h.firstDeclarator.bind fun _ _ hcd => hcd.child (Or.inl rfl)
  · exact h.child (Or.inl rfl)
  · exact h.child (Or.inl rfl)
  · exact .none

end ReadAlike
end Tree

namespace Handle

/-- What the initializer calls, if it is a call. -/
def callee? (h : Handle) : Option Node :=
  h.value.node.bind fun value =>
    if value.kind = "call_expression" then value.child? "function" else none

variable {h k : Handle}

/-- An initializer is a call to what has the callee's text. -/
theorem isCallTo_iff
    (callee : String) :
    h.isCallTo callee = true ↔ h.callee?.map Tree.text = some callee := by
  unfold isCallTo callee? Tree.childText?
  cases h.value.node with
  | none =>
      simp
  | some value =>
      by_cases hkind : value.kind = "call_expression"
      · simp [hkind]
      · simp [hkind]

/-- Two handles give the same answer for every callee when their own callees have the same text. -/
theorem isCallTo_eq_iff :
    (∀ callee, h.isCallTo callee = k.isCallTo callee) ↔
      h.callee?.map Tree.text = k.callee?.map Tree.text := by
  constructor
  · intro hsame
    apply Option.ext
    intro callee
    rw [← isCallTo_iff, ← isCallTo_iff, hsame]
  · intro htext callee
    rw [Bool.eq_iff_iff, isCallTo_iff, isCallTo_iff, htext]

theorem node_value
    (h : Handle) :
    h.value.node = h.focus.bind Tree.initializer? := by
  unfold value found?
  cases h.focus.bind Tree.initializer? with
  | none =>
      rfl
  | some _ =>
      rfl

/-- Declarations that are alike have initializers that call what is alike. -/
theorem readAlike_callee?
    (hfocus : Option.Rel Tree.ReadAlike h.focus k.focus) :
    Option.Rel Tree.ReadAlike h.callee? k.callee? := by
  have hvalue := hfocus.bind fun _ _ hab => hab.initializer
  rw [← node_value, ← node_value] at hvalue
  refine hvalue.bind fun c d hcd => ?_
  rw [hcd.kind_eq]
  split
  · exact hcd.child (Or.inr rfl)
  · exact .none

/-- Initializers of declarations that are alike are calls together, and then the callees agree. -/
theorem agree_callee?
    (hcallee : Option.Rel Tree.ReadAlike h.callee? k.callee?) :
    agree h.callee? k.callee? = true := by
  rcases hcallee.eq_none_or_eq_some with ⟨hc, hd⟩ | ⟨c, d, hc, hd, hcd⟩
  · rw [hc, hd]
    rfl
  · rw [hc, hd]
    exact hcd.agrees

/-- Declarations that are alike are told apart by the calls that they make when the texts of their
callees differ, and only then.  Where no semicolon and no comment fills a field that is read, their
callees agree, so that the texts do not differ where nothing structural stands below the callee. -/
theorem isCallTo_of_alike
    (h k : Handle)
    (halike : Option.Rel Tree.Alike h.focus k.focus) :
    ((∀ callee, h.isCallTo callee = k.isCallTo callee) ↔
      h.callee?.map Tree.text = k.callee?.map Tree.text) ∧
    ((∀ n, h.focus = some n → n.LayoutUnread) →
      (∀ n, k.focus = some n → n.LayoutUnread) →
        agree h.callee? k.callee? = true ∧
        ((∀ c, h.callee? = some c → c.structuralChildren = []) →
          ∀ callee, h.isCallTo callee = k.isCallTo callee)) := by
  refine ⟨isCallTo_eq_iff, fun hunread hunread' => ?_⟩
  have hfocus : Option.Rel Tree.ReadAlike h.focus k.focus :=
    halike.imp_of_eq_some fun a b ha hb hab => ⟨hab, hunread a ha, hunread' b hb⟩
  have hcallee := readAlike_callee? hfocus
  refine ⟨agree_callee? hcallee, fun hleaf => isCallTo_eq_iff.mpr ?_⟩
  rcases hcallee.eq_none_or_eq_some with ⟨hc, hd⟩ | ⟨c, d, hc, hd, hcd⟩
  · rw [hc, hd]
  · rw [hc, hd, Option.map_some, Option.map_some, hcd.text_eq (hleaf c hc)]

section Samples

/-- The declaration `let x = …` of a call, as a parser sees it, with what the call consists of. -/
def callSample (stop : Nat) (inside : List ParseTree) : ParseTree :=
  .node ⟨"lexical_declaration", none, true, false, ⟨0, stop⟩⟩
    [.node ⟨"let", some "kind", false, false, ⟨0, 3⟩⟩ [],
     .node ⟨"variable_declarator", none, true, false, ⟨4, stop⟩⟩
      [.node ⟨"identifier", some "name", true, false, ⟨4, 5⟩⟩ [],
       .node ⟨"=", none, false, false, ⟨6, 7⟩⟩ [],
       .node ⟨"call_expression", some "value", true, false, ⟨8, stop⟩⟩ inside]]

/-- Empty arguments, as a parser sees them from `start` on. -/
def argumentsSample (start : Nat) : ParseTree :=
  .node ⟨"arguments", some "arguments", true, false, ⟨start, start + 2⟩⟩
    [.node ⟨"(", none, false, false, ⟨start, start + 1⟩⟩ [],
     .node ⟨")", none, false, false, ⟨start + 1, start + 2⟩⟩ []]

/-- A call of `a.b` with `gap` blanks around the dot. -/
def memberCallSample (gap : Nat) : ParseTree :=
  callSample (13 + 2 * gap)
    [.node ⟨"member_expression", some "function", true, false, ⟨8, 11 + 2 * gap⟩⟩
      [.node ⟨"identifier", some "object", true, false, ⟨8, 9⟩⟩ [],
       .node ⟨".", none, false, false, ⟨9 + gap, 10 + gap⟩⟩ [],
       .node ⟨"property_identifier", some "property", true, false,
        ⟨10 + 2 * gap, 11 + 2 * gap⟩⟩ []],
     argumentsSample (11 + 2 * gap)]

/-- A call of `f`, with what stands before the arguments. -/
def nameCallSample (start : Nat) (between : List ParseTree) : ParseTree :=
  callSample (start + 2)
    (.node ⟨"identifier", some "function", true, false, ⟨8, 9⟩⟩ [] ::
      (between ++ [argumentsSample start]))

/-- The handle on `let x = a.b()`. -/
def denseHandle : Handle :=
  ofNode .generic ((memberCallSample 0).excerpted "let x = a.b()")

/-- The handle on `let x = a . b()`. -/
def spacedHandle : Handle :=
  ofNode .generic ((memberCallSample 1).excerpted "let x = a . b()")

/-- The declarations are alike, and only the first is taken for a call to `a.b`. -/
theorem isCallTo_of_spacedSample :
    Option.Rel Tree.Alike denseHandle.focus spacedHandle.focus ∧
      denseHandle.isCallTo "a.b" = true ∧
      spacedHandle.isCallTo "a.b" = false := by
  refine ⟨.some ⟨by decide, ?_⟩, by decide, by decide⟩
  simp [memberCallSample, callSample, argumentsSample, ParseTree.excerpted, Tree.map, Tree.mapAll,
    Mark.excerpt, Tree.sameFields_node, Tree.isStructural, Tree.kind, Tree.field]

/-- The handle on `let x = f()`. -/
def plainCallHandle : Handle :=
  ofNode .generic ((nameCallSample 9 []).excerpted "let x = f()")

/-- The handle on `let x = f /* c */ ()`. -/
def commentedCallHandle : Handle :=
  ofNode .generic
    ((nameCallSample 18 [.node ⟨"comment", none, true, false, ⟨10, 17⟩⟩ []]).excerpted
      "let x = f /* c */ ()")

theorem alike_nameCallSample :
    Option.Rel Tree.Alike plainCallHandle.focus commentedCallHandle.focus := by
  refine .some ⟨by decide, ?_⟩
  simp [nameCallSample, callSample, argumentsSample, ParseTree.excerpted, Tree.map, Tree.mapAll,
    Mark.excerpt, Tree.sameFields_node, Tree.isStructural, Tree.kind, Tree.field]

/-- A comment behind the name of a function leaves the answers for every callee as they are. -/
theorem isCallTo_of_nameCallSample :
    Option.Rel Tree.Alike plainCallHandle.focus commentedCallHandle.focus ∧
      (∀ callee, plainCallHandle.isCallTo callee = commentedCallHandle.isCallTo callee) ∧
      commentedCallHandle.isCallTo "f" = true := by
  obtain ⟨_, hunread⟩ :=
    isCallTo_of_alike plainCallHandle commentedCallHandle alike_nameCallSample
  have hsame : ∀ callee, plainCallHandle.isCallTo callee = commentedCallHandle.isCallTo callee := by
    refine (hunread ?_ ?_).2 ?_
    · rintro n ⟨⟩
      simp [nameCallSample, callSample, argumentsSample, ParseTree.excerpted, Tree.map,
        Tree.mapAll, Mark.excerpt, Tree.layoutUnread_node, Tree.isStructural, Tree.kind, Tree.field]
    · rintro n ⟨⟩
      simp [nameCallSample, callSample, argumentsSample, ParseTree.excerpted, Tree.map,
        Tree.mapAll, Mark.excerpt, Tree.layoutUnread_node, Tree.isStructural, Tree.kind, Tree.field]
    · rintro c ⟨⟩
      rfl
  have hcalls : plainCallHandle.isCallTo "f" = true := by decide
  exact ⟨alike_nameCallSample, hsame, hsame "f" ▸ hcalls⟩

end Samples

end Handle
end SnippetRubric
