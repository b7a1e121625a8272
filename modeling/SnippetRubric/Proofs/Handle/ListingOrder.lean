import SnippetRubric.Proofs.Handle.Declarators
import SnippetRubric.Proofs.Handle.IfChains
import SnippetRubric.Proofs.Handle.Reachable
import SnippetRubric.Proofs.Tree.SourceOrder

/-!
# Listings in source order

What a listing answers with need not be children of one node: an exported declaration stands one
level below its export, parameters hang under the value of a declarator, and each link of an if
chain stands inside the `else` branch of the link before it.

Still the spans of the answers form a *row* in the span of the node that was asked
(`Span.Row`): they lie in it, one behind the other.  A row stays one when some of its spans are left
out, when each of them shrinks, and when the span around it grows, which settles the listings that
come from one list of children.  Along an if chain the row of the later links lies in the
`alternative` of the first, behind its other parts (`Tree.row_link`), and the row of the chain
follows by induction on the links (`Tree.row_chain`).

The main statement is `Handle.listings_form_rows`.
-/

namespace SnippetRubric
namespace Span

/-- The spans lie in `outer`, one behind the other. -/
structure Row (outer : Span) (spans : List Span) : Prop where
  ordered : spans.Pairwise Before
  inside : ∀ s ∈ spans, s.Within outer

section Row

variable {inner outer : Span} {spans : List Span}

theorem row_nil
    (outer : Span) :
    outer.Row [] where
  ordered := .nil
  inside := by simp

theorem row_singleton
    (h : inner.Within outer) :
    outer.Row [inner] where
  ordered := List.pairwise_singleton _ _
  inside := by simpa using h

theorem Row.sublist
    {fewer : List Span}
    (h : outer.Row spans)
    (hfewer : fewer.Sublist spans) :
    outer.Row fewer where
  ordered := h.ordered.sublist hfewer
  inside := fun s hs => h.inside s (hfewer.subset hs)

theorem Row.widen
    (h : inner.Row spans)
    (hinner : inner.Within outer) :
    outer.Row spans where
  ordered := h.ordered
  inside := fun s hs => (h.inside s hs).trans hinner

theorem Row.append
    {later : List Span}
    (h : outer.Row spans)
    (hlater : outer.Row later)
    (hbefore : ∀ s ∈ spans, ∀ r ∈ later, s.Before r) :
    outer.Row (spans ++ later) where
  ordered := List.pairwise_append.mpr ⟨h.ordered, hlater.ordered, hbefore⟩
  inside := by
    intro s hs
    rcases List.mem_append.mp hs with hs | hs
    · exact h.inside s hs
    · exact hlater.inside s hs

/-- No span with a byte in it occurs twice in a row. -/
theorem Row.nodup
    (h : outer.Row spans) :
    (spans.filter fun s => s.start < s.stop).Nodup := by
  refine (h.ordered.filter _).imp_of_mem fun {s r} hs _ hbefore heq => ?_
  subst heq
  have hbytes : s.start < s.stop := by simpa using (List.mem_filter.mp hs).2
  exact Nat.not_le_of_lt hbytes hbefore

end Row
end Span

namespace Tree

variable {α β : Type}

/-- The first child in a field, where `mark` tells the mark of a label. -/
def part? (mark : α → Mark) (t : Tree α) (field : String) : Option (Tree α) :=
  t.children.find? fun c => (mark c.label).field == some field

/-- The spans of a tree are nested, and in its `if` statements the condition, the consequence and
the alternative come in this order. -/
structure InSourceOrder (mark : α → Mark) (t : Tree α) : Prop where
  spans : t.SpansNested fun a => (mark a).span
  parts : ∀ s, IsSubtree s t → Shape.ofKind (mark s.label).kind = .conditional →
    (["condition", "consequence", "alternative"].filterMap (part? mark s)).Sublist s.children

theorem part?_map
    (mark : β → Mark)
    (f : α → β)
    (t : Tree α)
    (field : String) :
    part? mark (t.map f) field = (part? (fun a => mark (f a)) t field).map (map f) := by
  rw [part?, children_map, List.find?_map]
  simp only [Function.comp_def, label_map]
  rfl

namespace InSourceOrder

variable {mark : α → Mark} {s t : Tree α}

theorem of_isSubtree
    (h : t.InSourceOrder mark)
    (hs : IsSubtree s t) :
    s.InSourceOrder mark where
  spans := h.spans.of_isSubtree hs
  parts := fun r hr => h.parts r (hr.trans hs)

theorem map
    (f : α → β)
    (mark : β → Mark)
    (h : t.InSourceOrder fun a => mark (f a)) :
    (t.map f).InSourceOrder mark where
  spans := h.spans.map f fun a => (mark a).span
  parts := by
    intro s hs hkind
    obtain ⟨r, hr, rfl⟩ := exists_of_isSubtree_map hs
    rw [label_map] at hkind
    have hsublist := (h.parts r hr hkind).map (Tree.map f)
    rw [List.map_filterMap] at hsublist
    rw [children_map]
    simpa only [part?_map] using hsublist

end InSourceOrder

theorem inSourceOrder_node
    {mark : α → Mark}
    {a : α}
    {cs : List (Tree α)} :
    (node a cs).InSourceOrder mark ↔
      (∀ c ∈ cs, (mark c.label).span.Within (mark a).span) ∧
        cs.Pairwise (fun c d => (mark c.label).span.Before (mark d.label).span) ∧
        (Shape.ofKind (mark a).kind = .conditional →
          (["condition", "consequence", "alternative"].filterMap
            (part? mark (node a cs))).Sublist cs) ∧
        ∀ c ∈ cs, c.InSourceOrder mark := by
  constructor
  · intro h
    obtain ⟨hwithin, hsiblings, _⟩ := spansNested_node.mp h.spans
    exact ⟨hwithin, hsiblings, h.parts _ (.refl _),
      fun c hc => h.of_isSubtree (.of_mem_children hc)⟩
  · rintro ⟨hwithin, hsiblings, hparts, hbelow⟩
    refine ⟨spansNested_node.mpr ⟨hwithin, hsiblings, fun c hc => (hbelow c hc).spans⟩, ?_⟩
    intro s hs
    rcases isSubtree_node_iff.mp hs with rfl | ⟨c, hc, hs⟩
    · exact hparts
    · exact (hbelow c hc).parts s hs

section Listings

/-- A row stays one when each of its nodes is replaced by one inside it. -/
theorem row_map
    {outer : Span}
    {nodes : List Node}
    {f : Node → Node}
    (h : outer.Row (nodes.map span))
    (hf : ∀ s ∈ nodes, (f s).span.Within s.span) :
    outer.Row ((nodes.map f).map span) where
  ordered := by
    have hordered := List.pairwise_map.mp h.ordered
    rw [List.pairwise_map, List.pairwise_map]
    exact hordered.imp_of_mem fun hs hr hbefore => hbefore.of_within (hf _ hs) (hf _ hr)
  inside := by
    intro r hr
    rw [List.map_map] at hr
    obtain ⟨s, hs, rfl⟩ := List.mem_map.mp hr
    exact (hf s hs).trans (h.inside s.span (List.mem_map_of_mem hs))

variable {n : Node}

theorem InSourceOrder.within_of_isSubtree
    {s : Node}
    (h : n.InSourceOrder Excerpt.toMark)
    (hs : s.IsSubtree n) :
    s.span.Within n.span :=
  h.spans.within_of_isSubtree hs

/-- The children of a node that satisfy a test form a row. -/
theorem row_filter_children
    (h : n.InSourceOrder Excerpt.toMark)
    (keep : Node → Bool) :
    n.span.Row ((n.children.filter keep).map span) := by
  have hchildren : n.span.Row (n.children.map span) := by
    refine ⟨List.pairwise_map.mpr (h.spans.siblings n (.refl n)), fun s hs => ?_⟩
    obtain ⟨c, hc, rfl⟩ := List.mem_map.mp hs
    exact h.spans.within n (.refl n) c hc
  exact hchildren.sublist (List.filter_sublist.map span)

/-- The children of any node below, if they satisfy a test, form a row. -/
theorem row_filter_children_of_isSubtree
    {s : Node}
    (h : n.InSourceOrder Excerpt.toMark)
    (hs : s.IsSubtree n)
    (keep : Node → Bool) :
    n.span.Row ((s.children.filter keep).map span) :=
  (row_filter_children (h.of_isSubtree hs) keep).widen (h.within_of_isSubtree hs)

theorem row_scope
    (h : n.InSourceOrder Excerpt.toMark) :
    n.span.Row (n.scope.map span) := by
  unfold scope
  split
  · refine row_map (row_filter_children h _) fun s hs => ?_
    have hchild := h.of_isSubtree (.of_mem_children (List.mem_filter.mp hs).1)
    exact hchild.within_of_isSubtree isSubtree_unexported
  · exact Span.row_singleton (h.within_of_isSubtree isSubtree_unexported)

theorem isSubtree_of_child?
    {c : Node}
    {field : String}
    (h : n.child? field = some c) :
    c.IsSubtree n :=
  .of_mem_children (List.mem_of_find?_eq_some h)

theorem row_classMembers
    (h : n.InSourceOrder Excerpt.toMark)
    (shape : Shape) :
    n.span.Row ((n.classMembers shape).map span) := by
  unfold classMembers
  split
  · cases hbody : n.child? "body" with
    | none =>
        exact Span.row_nil _
    | some body =>
        exact row_filter_children_of_isSubtree h (isSubtree_of_child? hbody) _
  · exact Span.row_nil _

/-- The function of a callable stands in the node that is seen as the callable. -/
theorem isSubtree_function
    {c : Callable}
    (h : Callable.ofNode? n = some c) :
    c.function.IsSubtree n := by
  have hdeclarator :
      ∀ {d : Node}, Callable.ofDeclarator? d = some c → c.function.IsSubtree d := by
    intro d hd
    obtain ⟨function, hvalue, _, rfl⟩ := ofDeclarator?_eq_some_iff.mp hd
    exact isSubtree_of_child? hvalue
  unfold Callable.ofNode? at h
  split at h
  case h_5 =>
    exact hdeclarator h
  case h_6 hshape =>
    rw [Callable.bindings, if_pos hshape] at h
    obtain ⟨d, hd, hcallable⟩ := List.mem_filterMap.mp (List.mem_of_head? h)
    exact (hdeclarator hcallable).trans (.of_mem_children (List.mem_filter.mp hd).1)
  case h_7 =>
    cases h
  all_goals
    cases h
    exact .refl n

theorem row_parameters
    (h : n.InSourceOrder Excerpt.toMark) :
    n.span.Row (n.parameters.map span) := by
  unfold parameters
  cases hcallable : Callable.ofNode? n with
  | none =>
      exact Span.row_nil _
  | some c =>
      have hfunction := isSubtree_function hcallable
      simp only [Option.map_some, Option.getD_some, Callable.parameters]
      split
      · rename_i list hlist
        exact row_filter_children_of_isSubtree h ((isSubtree_of_child? hlist).trans hfunction) _
      · cases hlone : c.function.child? "parameter" with
        | none =>
            exact Span.row_nil _
        | some p =>
            exact Span.row_singleton
              (h.within_of_isSubtree ((isSubtree_of_child? hlone).trans hfunction))

end Listings

section Chains

variable {n next : Node}

/-- What is read of a link stands in its condition or in its consequence. -/
def ReadsLink (part : Node → Option Node) : Prop :=
  ∀ {link c : Node}, part link = some c →
    ∃ field ∈ ["condition", "consequence"], ∃ p, link.child? field = some p ∧ c.IsSubtree p

theorem readsLink_testedCondition? : ReadsLink testedCondition? := by
  intro link c hc
  obtain ⟨p, hp, hfirst⟩ := testedCondition?_eq_some_iff.mp hc
  exact ⟨"condition", by simp, p, child?_eq_some_iff.mpr hp, .of_mem_children hfirst.mem⟩

theorem readsLink_consequence : ReadsLink fun link => link.child? "consequence" := by
  intro link c hc
  exact ⟨"consequence", by simp, c, hc, .refl c⟩

/-- The condition and the consequence of an `if` statement come before its alternative. -/
theorem before_alternative
    {field : String}
    {p clause : Node}
    (h : n.InSourceOrder Excerpt.toMark)
    (hif : n.shape = .conditional)
    (hfield : field ∈ ["condition", "consequence"])
    (hp : n.child? field = some p)
    (hclause : n.child? "alternative" = some clause) :
    p.span.Before clause.span := by
  have hparts := (h.spans.siblings n (.refl n)).sublist (h.parts n (.refl n) hif)
  have hsplit :
      ["condition", "consequence", "alternative"] =
        ["condition", "consequence"] ++ ["alternative"] :=
    rfl
  rw [hsplit, List.filterMap_append, List.pairwise_append] at hparts
  exact hparts.2.2 p (List.mem_filterMap.mpr ⟨field, hfield, hp⟩) clause
    (List.mem_filterMap.mpr ⟨"alternative", by simp, hclause⟩)

theorem exists_alternative_of_elseBranch?
    (h : n.elseBranch? = some next) :
    ∃ clause, n.child? "alternative" = some clause ∧ next.IsSubtree clause := by
  obtain ⟨clause, hclause, hfirst⟩ := elseBranch?_eq_some_iff.mp h
  exact ⟨clause, child?_eq_some_iff.mpr hclause, .of_mem_children hfirst.mem⟩

theorem row_part
    {part : Node → Option Node}
    (hpart : ReadsLink part)
    (h : n.InSourceOrder Excerpt.toMark) :
    n.span.Row ((part n).toList.map span) := by
  cases hc : part n with
  | none =>
      exact Span.row_nil _
  | some c =>
      obtain ⟨_, _, p, hp, hcp⟩ := hpart hc
      exact Span.row_singleton (h.within_of_isSubtree (hcp.trans (isSubtree_of_child? hp)))

/-- What is read of a link comes before a row in its `else` branch. -/
theorem row_link
    {part : Node → Option Node}
    {rest : List Node}
    (hpart : ReadsLink part)
    (h : n.InSourceOrder Excerpt.toMark)
    (hif : n.shape = .conditional)
    (hnext : n.elseBranch? = some next)
    (hrest : next.span.Row (rest.map span)) :
    n.span.Row (((part n).toList ++ rest).map span) := by
  obtain ⟨clause, hclause, hbelow⟩ := exists_alternative_of_elseBranch? hnext
  have hsub := isSubtree_of_child? hclause
  have hinside := (h.of_isSubtree hsub).within_of_isSubtree hbelow
  rw [List.map_append]
  refine (row_part hpart h).append (hrest.widen (hinside.trans (h.within_of_isSubtree hsub))) ?_
  intro s hs r hr
  obtain ⟨c, hc, rfl⟩ := List.mem_map.mp hs
  obtain ⟨field, hfield, p, hp, hcp⟩ := hpart (Option.mem_toList.mp hc)
  exact (before_alternative h hif hfield hp hclause).of_within
    ((h.of_isSubtree (isSubtree_of_child? hp)).within_of_isSubtree hcp)
    ((hrest.inside r hr).trans hinside)

/-- The parts that are read along a chain, with the last `else` statement, form a row. -/
theorem row_chain
    {part : Node → Option Node}
    (hpart : ReadsLink part)
    (h : n.InSourceOrder Excerpt.toMark)
    (hif : n.shape = .conditional) :
    n.span.Row
      (((IfChain.ofConditional n).links.filterMap part ++
        (IfChain.ofConditional n).otherwise.toList).map span) := by
  -- along the links, which stand ever deeper: the rest of the chain is a row in the next link
  induction n using IfChain.ofConditional.induct with
  | case1 n hnone =>
      rw [IfChain.ofConditional_eq, hnone]
      simpa [List.filterMap_eq_flatMap_toList] using row_part hpart h
  | case2 n next hnext hshape ih =>
      obtain ⟨clause, hclause, hbelow⟩ := exists_alternative_of_elseBranch? hnext
      have hsub := hbelow.trans (isSubtree_of_child? hclause)
      have hrow := row_link hpart h hif hnext (ih (h.of_isSubtree hsub) hshape)
      rw [IfChain.ofConditional_eq, hnext]
      simpa [hshape, List.filterMap_eq_flatMap_toList] using hrow
  | case3 n next hnext hshape =>
      have hself : next.span.Row ([next].map span) := Span.row_singleton (.refl _)
      have hrow := row_link hpart h hif hnext hself
      rw [IfChain.ofConditional_eq, hnext]
      simpa [hshape, List.filterMap_eq_flatMap_toList] using hrow

end Chains

end Tree

namespace Query

/-- The queries that answer with a listing. -/
def listings : List Query :=
  [statements, variableStatements, functions false, functions true, types, interfaces, classes,
    conditionals, methods, properties, parameters, conditions, branches]

end Query

namespace Handle

/-- The spans of the handles that are not empty. -/
def spans (listing : List Handle) : List Span :=
  listing.filterMap fun h => h.node.map Tree.span

variable {h : Handle} {n : Node}

/-- Handles on nodes have the spans of these nodes, and empty handles have none. -/
theorem spans_map_sublist
    {f : Node → Handle}
    (hf : ∀ n, (f n).node = none ∨ (f n).node = some n)
    (nodes : List Node) :
    (spans (nodes.map f)).Sublist (nodes.map Tree.span) := by
  induction nodes with
  | nil =>
      exact .slnil
  | cons n nodes ih =>
      rw [spans, List.map_cons, List.map_cons]
      rcases hf n with hnone | hsome
      · rw [List.filterMap_cons_none (by rw [hnone]; rfl)]
        exact ih.cons _
      · rw [List.filterMap_cons_some (by rw [hsome]; rfl)]
        exact ih.cons_cons _

theorem row_map_found
    {outer : Span}
    {nodes : List Node}
    (hrow : outer.Row (nodes.map Tree.span)) :
    outer.Row (spans (nodes.map found)) :=
  hrow.sublist (spans_map_sublist (fun n => Or.inr (node_found n)) nodes)

theorem row_scopeWith
    (hn : n.InSourceOrder Excerpt.toMark)
    (hnode : h.node = some n)
    (keep : Node → Bool) :
    n.span.Row (spans (h.scopeWith keep)) := by
  rw [scopeWith, hnode]
  exact row_map_found ((Tree.row_scope hn).sublist (List.filter_sublist.map Tree.span))

theorem row_statements
    (hn : n.InSourceOrder Excerpt.toMark)
    (hnode : h.node = some n) :
    n.span.Row (spans h.statements) := by
  rw [statements, hnode]
  exact row_map_found (Tree.row_scope hn)

theorem row_membersOf
    (hn : n.InSourceOrder Excerpt.toMark)
    (hnode : h.node = some n)
    (shape : Shape) :
    n.span.Row (spans (h.membersOf shape)) := by
  rw [membersOf, hnode]
  exact row_map_found (Tree.row_classMembers hn shape)

/-- The parameters are read from the binding, if there is one. -/
theorem row_parameters
    (hn : n.InSourceOrder Excerpt.toMark)
    (hnode : h.node = some n)
    (hbinding : ∀ d, h.binding = some d → d.IsSubtree n) :
    n.span.Row (spans h.parameters) := by
  rw [parameters, focus, hnode]
  cases hd : h.binding with
  | none =>
      exact row_map_found (Tree.row_parameters hn)
  | some d =>
      have hsub := hbinding d hd
      exact row_map_found
        ((Tree.row_parameters (hn.of_isSubtree hsub)).widen (hn.within_of_isSubtree hsub))

theorem row_readings
    {part : Node → Option Node}
    {atElse : Node → Handle}
    (hpart : Tree.ReadsLink part)
    (hn : n.InSourceOrder Excerpt.toMark)
    (hif : n.shape = .conditional)
    (helse : ∀ s, (atElse s).node = none ∨ (atElse s).node = some s) :
    n.span.Row (spans ((IfChain.ofConditional n).readings part atElse)) := by
  refine (Tree.row_chain hpart hn hif).sublist ?_
  rw [IfChain.readings, spans, List.filterMap_append, List.map_append]
  exact (spans_map_sublist (fun s => Or.inr rfl) _).append (spans_map_sublist helse _)

theorem row_conditions
    (hn : n.InSourceOrder Excerpt.toMark)
    (hnode : h.node = some n) :
    n.span.Row (spans h.conditions) := by
  by_cases hif : n.shape = .conditional
  · rw [conditions_eq_readings hnode hif]
    exact row_readings Tree.readsLink_testedCondition? hn hif fun s => Or.inl rfl
  · rw [conditions, hnode, Option.bind_some, IfChain.ofNode?, if_neg hif]
    exact Span.row_nil _

theorem row_branches
    (hn : n.InSourceOrder Excerpt.toMark)
    (hnode : h.node = some n) :
    n.span.Row (spans h.branches) := by
  by_cases hif : n.shape = .conditional
  · rw [branches_eq_readings hnode hif]
    exact row_readings Tree.readsLink_consequence hn hif fun s => Or.inr rfl
  · rw [branches, hnode, Option.bind_some, IfChain.ofNode?, if_neg hif]
    exact Span.row_nil _

/-- In a tree that is in source order, what a listing answers with comes in source order, without
overlap or repetition, and inside the node that was asked.  The binding of a handle stands in its
node, as that of every reachable handle does. -/
theorem listings_form_rows
    (source : String)
    (t : ParseTree)
    (root n : Node)
    (h : Handle)
    (hordered : t.InSourceOrder id)
    (hcopy : t.copy source = .ok root)
    (hsub : n.IsSubtree root)
    (hnode : h.node = some n)
    (hbinding : ∀ d, h.binding = some d → d.IsSubtree n) :
    ∀ query ∈ Query.listings,
      n.span.Row (spans (query.answers h)) ∧
        ((spans (query.answers h)).filter fun s => s.start < s.stop).Nodup := by
  obtain ⟨_, rfl⟩ := ParseTree.copy_eq_ok_iff.mp hcopy
  have hroot : (t.excerpted source).InSourceOrder Excerpt.toMark :=
    hordered.map (Mark.excerpt source) Excerpt.toMark
  have hn := hroot.of_isSubtree hsub
  have hscope := row_scopeWith hn hnode
  have hmembers := row_membersOf hn hnode
  have hrows : ∀ query ∈ Query.listings, n.span.Row (spans (query.answers h)) := by
    simp only [Query.listings, List.forall_mem_cons]
    exact ⟨row_statements hn hnode, hscope _, hscope _, hscope _, hscope _, hscope _, hscope _,
      hscope _, hmembers _, hmembers _, row_parameters hn hnode hbinding,
      row_conditions hn hnode, row_branches hn hnode, List.forall_mem_nil _⟩
  exact fun query hquery => ⟨hrows query hquery, (hrows query hquery).nodup⟩

section Samples

/-- The program that consists of the chain. -/
def chainProgramSample : ParseTree :=
  .node ⟨"program", none, true, false, ⟨0, 40⟩⟩ [chainSample]

theorem inSourceOrder_chainProgramSample : chainProgramSample.InSourceOrder id := by
  simp [chainProgramSample, chainSample, conditionalSample, namedStatementSample,
    Tree.inSourceOrder_node, Span.Within, Span.Before, Tree.part?, Shape.ofKind]

/-- The second link of the chain. -/
def innerLinkSample : ParseTree :=
  conditionalSample 23 40 [namedStatementSample none 38]

theorem ofConditional_chainSample :
    IfChain.ofConditional (chainSample.excerpted chainText) =
      ⟨[chainSample.excerpted chainText, innerLinkSample.excerpted chainText],
        some ((namedStatementSample none 38).excerpted chainText)⟩ := by
  have houter :
      (chainSample.excerpted chainText).elseBranch? =
        some (innerLinkSample.excerpted chainText) :=
    rfl
  have hinner :
      (innerLinkSample.excerpted chainText).elseBranch? =
        some ((namedStatementSample none 38).excerpted chainText) :=
    rfl
  have hshape : (innerLinkSample.excerpted chainText).shape = .conditional := rfl
  rw [IfChain.ofConditional_eq, houter]
  simp only [if_pos hshape]
  rw [IfChain.ofConditional_eq, hinner]
  rfl

/-- The conditions and the branches of the chain stand on two levels, and form rows. -/
theorem listings_of_chainHandle_form_rows :
    chainProgramSample.InSourceOrder id ∧
      chainProgramSample.copy chainText = .ok (chainProgramSample.excerpted chainText) ∧
      (chainSample.excerpted chainText).IsSubtree (chainProgramSample.excerpted chainText) ∧
      chainHandle.node = some (chainSample.excerpted chainText) ∧
      spans chainHandle.conditions = [⟨4, 5⟩, ⟨27, 28⟩] ∧
      spans chainHandle.branches = [⟨7, 9⟩, ⟨30, 32⟩, ⟨38, 40⟩] ∧
      ∀ query ∈ Query.listings,
        Span.Row ⟨0, 40⟩ (spans (query.answers chainHandle)) ∧
          ((spans (query.answers chainHandle)).filter fun s => s.start < s.stop).Nodup := by
  have hcopy :
      chainProgramSample.copy chainText = .ok (chainProgramSample.excerpted chainText) :=
    ParseTree.copy_eq_ok_iff.mpr ⟨by decide, rfl⟩
  have hsub :
      (chainSample.excerpted chainText).IsSubtree (chainProgramSample.excerpted chainText) :=
    .of_mem_children (List.mem_singleton.mpr rfl)
  have hconditions : spans chainHandle.conditions = [⟨4, 5⟩, ⟨27, 28⟩] := by
    rw [conditions_eq_readings (n := chainSample.excerpted chainText) rfl rfl,
      ofConditional_chainSample]
    rfl
  have hbranches : spans chainHandle.branches = [⟨7, 9⟩, ⟨30, 32⟩, ⟨38, 40⟩] := by
    rw [branches_eq_readings (n := chainSample.excerpted chainText) rfl rfl,
      ofConditional_chainSample]
    rfl
  exact ⟨inSourceOrder_chainProgramSample, hcopy, hsub, rfl, hconditions, hbranches,
    listings_form_rows chainText chainProgramSample _ _ chainHandle
      inSourceOrder_chainProgramSample hcopy hsub rfl (fun _ hd => nomatch hd)⟩

end Samples

end Handle
end SnippetRubric
