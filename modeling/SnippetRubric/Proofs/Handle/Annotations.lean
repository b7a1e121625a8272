import SnippetRubric.Proofs.Simulation.Displaced
import SnippetRubric.Proofs.Simulation.Handle

/-!
# Comments in annotations

A declared type stands in a *clause*: the annotation of a declarator, a parameter or a property, or
the result type of a function.  It is read as the first named child of its clause, and a comment is
named too.

`Tree.AnnotationsCommented` is the relation of a declaration to what becomes of it when comments are
put into its clauses, anywhere and any number of them.  The main statement is
`Handle.annotations_kept_iff_not_ledByComment`: the types that a handle tells stay what they were,
up to their places, just when no comment comes first in a clause that is read.
-/

namespace SnippetRubric
namespace Tree

section Insertion

/-- A comment as a parser sees it: named, in no field, with nothing below it. -/
structure IsPlainComment (c : Node) : Prop where
  kind : c.kind = "comment"
  named : c.named = true
  field : c.field = none
  children : c.children = []

/-- The second list is the first, up to places, with comments put in. -/
inductive CommentsPutIn : List Node → List Node → Prop
  | nil : CommentsPutIn [] []
  | keep
      {c d : Node}
      {cs ds : List Node}
      (same : c.Displaced d)
      (rest : CommentsPutIn cs ds) :
      CommentsPutIn (c :: cs) (d :: ds)
  | comment
      {c : Node}
      {cs ds : List Node}
      (plain : c.IsPlainComment)
      (rest : CommentsPutIn cs ds) :
      CommentsPutIn cs (c :: ds)

/-- A clause, and what becomes of it when comments are put in. -/
structure ClauseCommented (n m : Node) : Prop extends SameRole n m where
  children : CommentsPutIn n.children m.children

/-- A node, and what becomes of it when some of its children are changed as `R` says. -/
structure ChildrenChanged (R : Node → Node → Prop) (n m : Node) : Prop extends SameRole n m where
  children : List.Forall₂ (fun c d => c.Displaced d ∨ R c d) n.children m.children

/-- A clause that holds a type: an annotation, or the result type of a function. -/
def IsTypeClause (c : Node) : Prop :=
  (c.field = some "type" ∧ c.shape = .typeClause) ∨ c.field = some "return_type"

/-- Comments are put into the clauses of a node. -/
def ClausesCommented : Node → Node → Prop :=
  ChildrenChanged fun c d => c.IsTypeClause ∧ c.ClauseCommented d

/-- Comments are put into a clause, or into the clauses of a value. -/
def PartCommented (c d : Node) : Prop :=
  (c.IsTypeClause ∧ c.ClauseCommented d) ∨ (c.field = some "value" ∧ c.ClausesCommented d)

/-- Comments are put into the clauses of a declarator and of the function that it binds. -/
def DeclaratorCommented : Node → Node → Prop :=
  ChildrenChanged PartCommented

/-- Comments are put into the clauses of a declaration: for a variable statement into those of its
declarators. -/
def AnnotationsCommented (n m : Node) : Prop :=
  match n.shape with
  | .variableStatement =>
      ChildrenChanged (fun c d => c.shape = .declarator ∧ c.DeclaratorCommented d) n m
  | .declarator => n.DeclaratorCommented m
  | _ => n.ClausesCommented m

end Insertion

section Clauses

variable (n : Node)

/-- The clause that a node's own annotation is. -/
def typeClause? : Option Node :=
  (n.child? "type").filter fun clause => clause.shape == .typeClause

/-- The clause that a callable's result type is read from. -/
def resultClause? : Option Node :=
  (Callable.ofNode? n).bind fun callable => callable.function.child? "return_type"

/-- The clause that the declared type of a declaration is read from. -/
def declaredClause? : Option Node :=
  match n.shape with
  | .variableStatement => n.declarators.head?.bind typeClause?
  | .declarator | .parameter | .classProperty | .propertySignature => n.typeClause?
  | .typeAlias => none
  | _ => n.resultClause?

/-- Whether the first named child of a clause is a comment. -/
def ledByComment (clause : Node) : Bool :=
  clause.firstNamed?.any isComment

/-- Whether a comment comes first in a clause that a type of the declaration is read from. -/
def annotationLedByComment : Bool :=
  n.declaredClause?.any ledByComment || n.resultClause?.any ledByComment

end Clauses

section Relations

variable {n m : Node} {R : Node → Node → Prop}

/-- A node at another place is changed in no child. -/
theorem Displaced.childrenChanged
    (h : n.Displaced m) :
    ChildrenChanged R n m :=
  ⟨h.sameRole, h.children.imp fun _ _ => Or.inl⟩

theorem ChildrenChanged.imp
    {S : Node → Node → Prop}
    (h : ChildrenChanged R n m)
    (himp : ∀ c d, R c d → S c d) :
    ChildrenChanged S n m :=
  ⟨h.toSameRole, h.children.imp fun _ _ hcd => hcd.imp_right (himp _ _)⟩

theorem ClausesCommented.declaratorCommented
    (h : n.ClausesCommented m) :
    n.DeclaratorCommented m :=
  ChildrenChanged.imp h fun _ _ => Or.inl

/-- The changed children keep their fields, so that the same ones are found. -/
theorem ChildrenChanged.child
    (h : ChildrenChanged R n m)
    (hR : ∀ c d, R c d → c.SameRole d)
    (field : String) :
    Option.Rel (fun c d => c.Displaced d ∨ R c d) (n.child? field) (m.child? field) := by
  refine h.children.find? fun c d hcd => ?_
  rcases hcd with hcd | hcd
  · rw [hcd.sameRole.field]
  · rw [(hR c d hcd).field]

/-- Where no comment comes first, the first named child is the one that was there before. -/
theorem CommentsPutIn.find?_named
    {cs ds : List Node}
    (h : CommentsPutIn cs ds)
    (hfirst : ∀ d, ds.find? named = some d → d.isComment = false) :
    Option.Rel Displaced (cs.find? named) (ds.find? named) := by
  induction h with
  | nil =>
      exact .none
  | @keep c d cs ds same rest ih =>
      have hnamed := same.sameRole.named
      cases hd : d.named with
      | true =>
          rw [List.find?_cons_of_pos (hnamed.trans hd), List.find?_cons_of_pos hd]
          exact .some same
      | false =>
          have hskip : ¬ d.named = true := by simp [hd]
          have hskip' : ¬ c.named = true := by rwa [hnamed]
          rw [List.find?_cons_of_neg hskip] at hfirst ⊢
          rw [List.find?_cons_of_neg hskip']
          exact ih hfirst
  | @comment c cs ds plain rest ih =>
      -- The comment is named, so that it comes first.
      have hcomment := hfirst c (List.find?_cons_of_pos plain.named)
      simp [isComment, plain.kind] at hcomment

theorem ClauseCommented.firstNamed
    (h : n.ClauseCommented m)
    (hled : m.ledByComment = false) :
    Option.Rel Displaced n.firstNamed? m.firstNamed? := by
  refine h.children.find?_named fun d hd => ?_
  have hfirst : m.firstNamed? = some d := hd
  simpa [ledByComment, hfirst] using hled

theorem DeclaratorCommented.child
    (h : n.DeclaratorCommented m)
    (field : String) :
    Option.Rel (fun c d => c.Displaced d ∨ c.PartCommented d)
      (n.child? field) (m.child? field) := by
  refine ChildrenChanged.child h (fun c d hcd => ?_) field
  rcases hcd with ⟨_, hclause⟩ | ⟨_, hvalue⟩
  · exact hclause.toSameRole
  · exact hvalue.toSameRole

/-- The annotation of a declaration is still read as the type that it was. -/
theorem DeclaratorCommented.annotatedType
    (h : n.DeclaratorCommented m)
    (hled : m.typeClause?.any ledByComment = false) :
    Option.Rel Displaced n.annotatedType? m.annotatedType? := by
  refine (h.child "type").bind_of_eq_some fun c d hn hm hcd => ?_
  have hfield := field_of_child? hn
  rcases hcd with hsame | ⟨hclause, hcommented⟩ | ⟨hvalue, _⟩
  · rw [hsame.sameRole.shape]
    split
    · exact pointwise_displaced.firstNamed hsame
    · exact .some hsame
  · have hshape : c.shape = .typeClause := by
      rcases hclause with ⟨_, hshape⟩ | hresult
      · exact hshape
      · simp [hfield] at hresult
    have hshape' : d.shape = .typeClause := hcommented.shape.symm.trans hshape
    rw [if_pos hshape, if_pos hshape']
    exact hcommented.firstNamed (by simpa [typeClause?, hm, hshape'] using hled)
  · simp [hfield] at hvalue

/-- The result type of a function is still read as the type that it was. -/
theorem DeclaratorCommented.resultClause
    (h : n.DeclaratorCommented m)
    (hled : (m.child? "return_type").any ledByComment = false) :
    Option.Rel Displaced ((n.child? "return_type").bind firstNamed?)
      ((m.child? "return_type").bind firstNamed?) := by
  refine (h.child "return_type").bind_of_eq_some fun c d hn hm hcd => ?_
  rcases hcd with hsame | ⟨_, hcommented⟩ | ⟨hvalue, _⟩
  · exact pointwise_displaced.firstNamed hsame
  · exact hcommented.firstNamed (by simpa [hm] using hled)
  · simp [field_of_child? hn] at hvalue

/-- A declarator still binds the function that it did, with comments in its clauses. -/
theorem DeclaratorCommented.ofDeclarator
    (h : n.DeclaratorCommented m) :
    Option.Rel (fun f g => f.function.DeclaratorCommented g.function) (Callable.ofDeclarator? n)
      (Callable.ofDeclarator? m) := by
  refine (h.child "value").bind_of_eq_some fun c d hn _ hcd => ?_
  have hvalue : c.DeclaratorCommented d := by
    rcases hcd with hsame | ⟨hclause, _⟩ | ⟨_, hvalue⟩
    · exact hsame.childrenChanged
    · simp [IsTypeClause, field_of_child? hn] at hclause
    · exact hvalue.declaratorCommented
  rw [hvalue.shape]
  split
  · exact .some hvalue
  · exact .some hvalue
  · exact .none

end Relations

section Declarations

variable {n m : Node}

theorem AnnotationsCommented.of_variable
    (hshape : n.shape = .variableStatement)
    (h : ChildrenChanged (fun c d => c.shape = .declarator ∧ c.DeclaratorCommented d) n m) :
    n.AnnotationsCommented m := by
  simpa only [AnnotationsCommented, hshape] using h

theorem AnnotationsCommented.sameRole
    (h : n.AnnotationsCommented m) :
    n.SameRole m := by
  unfold AnnotationsCommented at h
  split at h
  · exact h.toSameRole
  · exact h.toSameRole
  · exact h.toSameRole

theorem AnnotationsCommented.declaratorCommented
    (h : n.AnnotationsCommented m)
    (hshape : n.shape ≠ .variableStatement) :
    n.DeclaratorCommented m := by
  unfold AnnotationsCommented at h
  split at h
  · contradiction
  · exact h
  · exact ClausesCommented.declaratorCommented h

theorem AnnotationsCommented.declarators
    (h : n.AnnotationsCommented m)
    (hshape : n.shape = .variableStatement) :
    List.Forall₂ DeclaratorCommented n.declarators m.declarators := by
  have hchanged :
      ChildrenChanged (fun c d => c.shape = .declarator ∧ c.DeclaratorCommented d) n m := by
    simpa only [AnnotationsCommented, hshape] using h
  have hcommented : List.Forall₂ DeclaratorCommented n.children m.children :=
    hchanged.children.imp fun c d hcd => by
      rcases hcd with hsame | ⟨_, hdeclarator⟩
      · exact hsame.childrenChanged
      · exact hdeclarator
  exact hcommented.filter fun c d hcd => by rw [hcd.shape]

/-- A declaration is still seen as the callable that it was, with comments in its clauses. -/
theorem AnnotationsCommented.callable
    (h : n.AnnotationsCommented m) :
    Option.Rel (fun f g => f.function.DeclaratorCommented g.function) (Callable.ofNode? n)
      (Callable.ofNode? m) := by
  by_cases hvariable : n.shape = .variableStatement
  · have hvariable' : m.shape = .variableStatement := h.sameRole.shape.symm.trans hvariable
    rw [Callable.ofNode?, Callable.ofNode?, hvariable, hvariable', Callable.bindings,
      Callable.bindings, if_pos hvariable, if_pos hvariable']
    exact ((h.declarators hvariable).filterMap fun _ _ hcd => hcd.ofDeclarator).head?
  · have hcommented := h.declaratorCommented hvariable
    unfold Callable.ofNode?
    rw [← h.sameRole.shape]
    split
    · exact .some hcommented
    · exact .some hcommented
    · exact .some hcommented
    · exact .some hcommented
    · exact hcommented.ofDeclarator
    · contradiction
    · exact .none

theorem AnnotationsCommented.resultType
    (h : n.AnnotationsCommented m)
    (hled : m.resultClause?.any ledByComment = false) :
    Option.Rel Displaced n.resultType? m.resultType? := by
  refine h.callable.bind_of_eq_some fun f g _ hm hfg => ?_
  rw [resultClause?, hm] at hled
  exact hfg.resultClause hled

/-- What a type alias stands for is no clause, and stays as it is. -/
theorem AnnotationsCommented.aliasedType
    (h : n.AnnotationsCommented m)
    (hshape : n.shape = .typeAlias) :
    Option.Rel Displaced (n.child? "value") (m.child? "value") := by
  have hclauses : n.ClausesCommented m := by
    simpa only [AnnotationsCommented, hshape] using h
  have hvalue := ChildrenChanged.child hclauses (fun c d hcd => hcd.2.toSameRole) "value"
  rcases hvalue.eq_none_or_eq_some with ⟨hn, hm⟩ | ⟨c, d, hn, hm, hcd⟩
  · rw [hn, hm]
    exact .none
  · rw [hn, hm]
    rcases hcd with hsame | ⟨hclause, _⟩
    · exact .some hsame
    · simp [IsTypeClause, field_of_child? hn] at hclause

/-- Where no comment comes first in the clause that it is read from, the declared type is still the
type that it was. -/
theorem AnnotationsCommented.declaredType
    (h : n.AnnotationsCommented m)
    (hled : m.declaredClause?.any ledByComment = false) :
    Option.Rel Displaced n.declaredType? m.declaredType? := by
  have hannotated : n.shape ≠ .variableStatement →
      m.typeClause?.any ledByComment = false →
        Option.Rel Displaced n.annotatedType? m.annotatedType? :=
    fun hshape => (h.declaratorCommented hshape).annotatedType
  unfold declaredType?
  unfold declaredClause? at hled
  rw [← h.sameRole.shape] at hled ⊢
  cases hshape : n.shape with
  | variableStatement =>
      simp only [hshape] at hled ⊢
      refine (h.declarators hshape).head?.bind_of_eq_some fun c d _ hm hcd => ?_
      rw [hm] at hled
      exact hcd.annotatedType hled
  | declarator | parameter | classProperty | propertySignature =>
      simp only [hshape] at hled ⊢
      exact hannotated (by simp [hshape]) hled
  | typeAlias =>
      exact h.aliasedType hshape
  | _ =>
      simp only [hshape] at hled ⊢
      exact h.resultType hled

theorem resultType?_of_resultClause?
    {clause : Node}
    (h : m.resultClause? = some clause) :
    m.resultType? = clause.firstNamed? := by
  obtain ⟨callable, hcallable, hclause⟩ := Option.bind_eq_some_iff.mp h
  rw [resultType?, hcallable, Option.bind_some, Callable.resultType?, hclause, Option.bind_some]

theorem annotatedType?_of_typeClause?
    {clause : Node}
    (h : m.typeClause? = some clause) :
    m.annotatedType? = clause.firstNamed? := by
  obtain ⟨hchild, hshape⟩ := Option.filter_eq_some_iff.mp h
  rw [annotatedType?, hchild, Option.bind_some, if_pos (by simpa using hshape)]

/-- The declared type is read as the first named child of its clause. -/
theorem declaredType?_of_declaredClause?
    {clause : Node}
    (h : m.declaredClause? = some clause) :
    m.declaredType? = clause.firstNamed? := by
  unfold declaredClause? at h
  unfold declaredType?
  cases hshape : m.shape with
  | variableStatement =>
      simp only [hshape] at h ⊢
      obtain ⟨declarator, hdeclarator, hclause⟩ := Option.bind_eq_some_iff.mp h
      rw [hdeclarator, Option.bind_some, annotatedType?_of_typeClause? hclause]
  | declarator | parameter | classProperty | propertySignature =>
      simp only [hshape] at h ⊢
      exact annotatedType?_of_typeClause? h
  | typeAlias =>
      simp [hshape] at h
  | _ =>
      simp only [hshape] at h ⊢
      exact resultType?_of_resultClause? h

theorem ledByComment_eq_false
    {clause : Node}
    (h : ∀ t, clause.firstNamed? = some t → t.isComment = false) :
    clause.ledByComment = false := by
  cases hfirst : clause.firstNamed? with
  | none =>
      simp [ledByComment, hfirst]
  | some t =>
      simpa [ledByComment, hfirst] using h t hfirst

/-- Where the declared type is no comment, none comes first in its clause. -/
theorem ledByComment_declaredClause?
    (h : ∀ t, m.declaredType? = some t → t.isComment = false) :
    m.declaredClause?.any ledByComment = false := by
  cases hclause : m.declaredClause? with
  | none =>
      rfl
  | some clause =>
      rw [declaredType?_of_declaredClause? hclause] at h
      exact ledByComment_eq_false h

/-- Where the result type is no comment, none comes first in its clause. -/
theorem ledByComment_resultClause?
    (h : ∀ t, m.resultType? = some t → t.isComment = false) :
    m.resultClause?.any ledByComment = false := by
  cases hclause : m.resultClause? with
  | none =>
      rfl
  | some clause =>
      rw [resultType?_of_resultClause? hclause] at h
      exact ledByComment_eq_false h

end Declarations
end Tree

namespace Handle

/-- The second handle tells the types that the first one does, up to their places: they are no
comments, and they agree with the same texts. -/
structure KeepsAnnotations (h k : Handle) : Prop where
  declaredType : Option.Rel Tree.Displaced h.declaredType.node k.declaredType.node
  resultType : Option.Rel Tree.Displaced h.resultType.node k.resultType.node
  declaredType_isComment : ∀ t, k.declaredType.node = some t → t.isComment = false
  resultType_isComment : ∀ t, k.resultType.node = some t → t.isComment = false
  hasDeclaredType : ∀ (parse : Parser) (text : String),
    h.hasDeclaredType parse text = k.hasDeclaredType parse text
  hasResultType : ∀ (parse : Parser) (text : String),
    h.hasResultType parse text = k.hasResultType parse text

/-- Handles on a node that only stands at another place agree with the same texts. -/
theorem agreesWithText_of_displaced
    {x y : Option Node}
    (hxy : Option.Rel Tree.Displaced x y)
    (parse : Parser)
    (text : String) :
    (!(ofNode? .typeReference x).isEmpty && (ofNode? .typeReference x).agreesWithText parse text) =
      (!(ofNode? .typeReference y).isEmpty &&
        (ofNode? .typeReference y).agreesWithText parse text) := by
  have hrel := HandleRel.ofNode? .typeReference hxy
  rw [hrel.isEmpty_eq, Tree.pointwise_displaced.simulation.agreesWithText_eq hrel parse text]

theorem isComment_of_displaced
    {x y : Option Node}
    (hxy : Option.Rel Tree.Displaced x y)
    (hx : ∀ t, x = some t → t.isComment = false) :
    ∀ t, y = some t → t.isComment = false := by
  intro t ht
  rcases hxy.eq_none_or_eq_some with ⟨_, hy⟩ | ⟨a, b, ha, hb, hab⟩
  · rw [hy] at ht
    cases ht
  · obtain rfl : b = t := Option.some.inj (hb.symm.trans ht)
    rw [Tree.isComment, ← hab.sameRole.kind]
    exact hx a ha

/-- Putting comments into the clauses of a declaration leaves the types that its handle tells as
they were, just when no comment comes first in a clause that is read. -/
theorem annotations_kept_iff_not_ledByComment
    (h k : Handle)
    (n m : Node)
    (hn : h.focus = some n)
    (hm : k.focus = some m)
    (hcommented : n.AnnotationsCommented m)
    (htype : ∀ t, h.declaredType.node = some t → t.isComment = false)
    (hresult : ∀ t, h.resultType.node = some t → t.isComment = false) :
    h.KeepsAnnotations k ↔ m.annotationLedByComment = false := by
  have hdeclared : k.declaredType.node = m.declaredType? := by
    rw [declaredType, hm]
    rfl
  have hresulted : k.resultType.node = m.resultType? := by
    rw [resultType, hm]
    rfl
  rw [Tree.annotationLedByComment, Bool.or_eq_false_iff]
  constructor
  · intro hkept
    exact ⟨Tree.ledByComment_declaredClause? (hdeclared ▸ hkept.declaredType_isComment),
      Tree.ledByComment_resultClause? (hresulted ▸ hkept.resultType_isComment)⟩
  · rintro ⟨hledType, hledResult⟩
    have htypes : Option.Rel Tree.Displaced h.declaredType.node k.declaredType.node := by
      rw [hdeclared, declaredType, hn]
      exact hcommented.declaredType hledType
    have hresults : Option.Rel Tree.Displaced h.resultType.node k.resultType.node := by
      rw [hresulted, resultType, hn]
      exact hcommented.resultType hledResult
    exact ⟨htypes, hresults, isComment_of_displaced htypes htype,
      isComment_of_displaced hresults hresult,
      fun parse text => agreesWithText_of_displaced htypes parse text,
      fun parse text => agreesWithText_of_displaced hresults parse text⟩

section Samples

/-- The type `number` as a parser sees it from `start` on. -/
def numberSample (start : Nat) : ParseTree :=
  .node ⟨"predefined_type", none, true, false, ⟨start, start + 6⟩⟩
    [.node ⟨"number", none, false, false, ⟨start, start + 6⟩⟩ []]

/-- A comment of seven bytes as a parser sees it from `start` on. -/
def commentSample (start : Nat) : ParseTree :=
  .node ⟨"comment", none, true, false, ⟨start, start + 7⟩⟩ []

/-- An annotation `: …` as a parser sees it, with these nodes behind the colon. -/
def clauseSample (colon stop : Nat) (inside : List ParseTree) : ParseTree :=
  .node ⟨"type_annotation", some "type", true, false, ⟨colon, stop⟩⟩
    (.node ⟨":", none, false, false, ⟨colon, colon + 1⟩⟩ [] :: inside)

/-- A declarator `a: …` as a parser sees it behind a `let`. -/
def annotatedDeclarator (colon stop : Nat) (inside : List ParseTree) : ParseTree :=
  .node ⟨"variable_declarator", none, true, false, ⟨4, stop⟩⟩
    [.node ⟨"identifier", some "name", true, false, ⟨4, 5⟩⟩ [],
     clauseSample colon stop inside]

/-- A declaration `let a: …;` as a parser sees it. -/
def annotatedSample (colon stop : Nat) (inside : List ParseTree) : ParseTree :=
  .node ⟨"lexical_declaration", none, true, false, ⟨0, stop + 1⟩⟩
    [.node ⟨"let", some "kind", false, false, ⟨0, 3⟩⟩ [],
     annotatedDeclarator colon stop inside,
     .node ⟨";", none, false, false, ⟨stop, stop + 1⟩⟩ []]

/-- A parser that knows a declaration without a comment, with one before the type and with one
behind it, and the type on its own in its host. -/
def annotationParser : Parser := fun text =>
  .node ⟨"program", none, true, false, ⟨0, text.utf8ByteSize⟩⟩
    [if text = "let a: number;" then annotatedSample 5 13 [numberSample 7]
     else if text = "let a: /* c */ number;" then
      annotatedSample 5 21 [commentSample 7, numberSample 15]
     else if text = "let a: number /* c */;" then
      annotatedSample 5 21 [numberSample 7, commentSample 14]
     else annotatedSample 6 14 [numberSample 8]]

theorem excerpted_node
    (text : String)
    (mark : Mark)
    (children : List ParseTree) :
    ParseTree.excerpted text (.node mark children) =
      .node (mark.excerpt text) (children.map (·.excerpted text)) := by
  rw [ParseTree.excerpted, Tree.map, Tree.mapAll_eq_map]
  rfl

theorem sameRole_excerpted
    {text text' : String}
    {mark mark' : Mark}
    {children children' : List ParseTree}
    (hkind : mark.kind = mark'.kind)
    (hfield : mark.field = mark'.field)
    (hnamed : mark.named = mark'.named) :
    Tree.SameRole (ParseTree.excerpted text (.node mark children))
      (ParseTree.excerpted text' (.node mark' children')) :=
  ⟨hkind, hfield, hnamed⟩

/-- A leaf that covers the same text stands only at another place. -/
theorem displaced_leaf
    {kind : String}
    {field : Option String}
    {named damaged : Bool}
    {span span' : Span}
    {text text' : String}
    (htext : Span.slice text span = Span.slice text' span') :
    Tree.Displaced (ParseTree.excerpted text (.node ⟨kind, field, named, damaged, span⟩ []))
      (ParseTree.excerpted text' (.node ⟨kind, field, named, damaged, span'⟩ [])) := by
  simp [Tree.Displaced, Tree.unplaced, ParseTree.excerpted, Tree.map, Tree.mapAll,
    Excerpt.unplaced, Mark.excerpt, htext]

theorem displaced_numberSample
    {start start' : Nat}
    {text text' : String}
    (htext : Span.slice text ⟨start, start + 6⟩ = Span.slice text' ⟨start', start' + 6⟩) :
    Tree.Displaced ((numberSample start).excerpted text)
      ((numberSample start').excerpted text') := by
  simp [numberSample, Tree.Displaced, Tree.unplaced, ParseTree.excerpted, Tree.map, Tree.mapAll,
    Excerpt.unplaced, Mark.excerpt, htext]

/-- Comments that are put behind the colon are put into the annotation of the declaration. -/
theorem annotationsCommented_annotatedSample
    {text text' : String}
    {stop stop' : Nat}
    {inside inside' : List ParseTree}
    (htexts :
      [⟨0, 3⟩, ⟨4, 5⟩, ⟨5, 6⟩, ⟨stop, stop + 1⟩].map (Span.slice text) =
        [⟨0, 3⟩, ⟨4, 5⟩, ⟨5, 6⟩, ⟨stop', stop' + 1⟩].map (Span.slice text'))
    (hinside :
      Tree.CommentsPutIn (inside.map (·.excerpted text)) (inside'.map (·.excerpted text'))) :
    ((annotatedSample 5 stop inside).excerpted text).AnnotationsCommented
      ((annotatedSample 5 stop' inside').excerpted text') := by
  simp only [List.map_cons, List.map_nil, List.cons.injEq, and_true] at htexts
  obtain ⟨hlet, hname, hcolon, hend⟩ := htexts
  -- The shapes are decided on the kinds alone: the samples hold variables.
  have hclauseShape : Shape.ofKind "type_annotation" = .typeClause := by decide
  have hdeclaratorShape : Shape.ofKind "variable_declarator" = .declarator := by decide
  have hstatementShape : Shape.ofKind "lexical_declaration" = .variableStatement := by decide
  have hclause :
      ((clauseSample 5 stop inside).excerpted text).ClauseCommented
        ((clauseSample 5 stop' inside').excerpted text') := by
    refine ⟨sameRole_excerpted rfl rfl rfl, ?_⟩
    rw [clauseSample, clauseSample, excerpted_node, excerpted_node]
    exact .keep (displaced_leaf hcolon) hinside
  have hdeclarator :
      ((annotatedDeclarator 5 stop inside).excerpted text).DeclaratorCommented
        ((annotatedDeclarator 5 stop' inside').excerpted text') := by
    refine ⟨sameRole_excerpted rfl rfl rfl, ?_⟩
    rw [annotatedDeclarator, annotatedDeclarator, excerpted_node, excerpted_node]
    exact .cons (Or.inl (displaced_leaf hname))
      (.cons (Or.inr (Or.inl ⟨Or.inl ⟨rfl, hclauseShape⟩, hclause⟩)) .nil)
  refine Tree.AnnotationsCommented.of_variable hstatementShape ⟨sameRole_excerpted rfl rfl rfl, ?_⟩
  rw [annotatedSample, annotatedSample, excerpted_node, excerpted_node]
  exact .cons (Or.inl (displaced_leaf hlet))
    (.cons (Or.inr ⟨hdeclaratorShape, hdeclarator⟩) (.cons (Or.inl (displaced_leaf hend)) .nil))

/-- A comment that is put behind the type leaves the declared type as it was. -/
theorem annotations_kept_behind_type :
    ∃ n m,
      (ofSource annotationParser "let a: number;").focus = some n ∧
        (ofSource annotationParser "let a: number /* c */;").focus = some m ∧
        n.AnnotationsCommented m ∧
        m.annotationLedByComment = false ∧
        (ofSource annotationParser "let a: number;").KeepsAnnotations
          (ofSource annotationParser "let a: number /* c */;") := by
  let n := (annotatedSample 5 13 [numberSample 7]).excerpted "let a: number;"
  let m :=
    (annotatedSample 5 21 [numberSample 7, commentSample 14]).excerpted "let a: number /* c */;"
  have hcommented : n.AnnotationsCommented m :=
    annotationsCommented_annotatedSample (by decide)
      (.keep (displaced_numberSample (by decide)) (.comment ⟨rfl, rfl, rfl, rfl⟩ .nil))
  have hled : m.annotationLedByComment = false := by decide
  have htype : n.declaredType?.all (fun t => !t.isComment) = true := by decide
  have hresult : n.resultType?.all (fun t => !t.isComment) = true := by decide
  refine ⟨n, m, rfl, rfl, hcommented, hled, ?_⟩
  refine (annotations_kept_iff_not_ledByComment _ _ n m rfl rfl hcommented ?_ ?_).mpr hled
  · intro t ht
    have hdeclared : n.declaredType? = some t := ht
    simpa [hdeclared] using htype
  · intro t ht
    have hresulted : n.resultType? = some t := ht
    simpa [hresulted] using hresult

/-- A comment that is put before the type is taken for the type: the declared type is the comment,
and it no longer agrees with the text of the type. -/
theorem annotations_lost_before_type :
    ∃ n m,
      (ofSource annotationParser "let a: number;").focus = some n ∧
        (ofSource annotationParser "let a: /* c */ number;").focus = some m ∧
        n.AnnotationsCommented m ∧
        (ofSource annotationParser "let a: number;").declaredType.display = "number" ∧
        (ofSource annotationParser "let a: number;").hasDeclaredType annotationParser "number" =
          true ∧
        (ofSource annotationParser "let a: /* c */ number;").declaredType.display = "/* c */" ∧
        (ofSource annotationParser "let a: /* c */ number;").hasDeclaredType annotationParser
          "number" = false := by
  let n := (annotatedSample 5 13 [numberSample 7]).excerpted "let a: number;"
  let m :=
    (annotatedSample 5 21 [commentSample 7, numberSample 15]).excerpted "let a: /* c */ number;"
  have hcommented : n.AnnotationsCommented m :=
    annotationsCommented_annotatedSample (by decide)
      (.comment ⟨rfl, rfl, rfl, rfl⟩ (.keep (displaced_numberSample (by decide)) .nil))
  exact ⟨n, m, rfl, rfl, hcommented, by decide, by decide, by decide, by decide⟩

end Samples

end Handle
end SnippetRubric
