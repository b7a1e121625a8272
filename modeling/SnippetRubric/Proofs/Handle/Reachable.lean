import SnippetRubric.Proofs.Fragment.Reading
import SnippetRubric.Proofs.Simulation.Handle

/-!
# Reachable handles

A handle is *reachable* from a text when a chain of queries leads to it from the handle of the text.
Two things are shown of every reachable handle.

* Its nodes belong to the one copy that was made of the text's parse tree.  Whatever is passed on
  from a node to its children is passed on by every query, since the relation of such nodes to
  themselves is a simulation (`Simulation.ofHereditary`, `Reachable.handleRel`).
* Its context and its binding fit its node (`Handle.Fitting`).  Here the chain does not matter: each
  query answers with fitting handles, whatever it is asked on (`Query.fitting_of_mem_answers`).

The main statement is `Handle.wellFormed_of_reachable`.
-/

namespace SnippetRubric

/-- A question that a handle answers with handles. -/
inductive Query where
  | statements
  | variableStatements
  | functions (withVariables : Bool)
  | types
  | interfaces
  | classes
  | conditionals
  | methods
  | properties
  | parameters
  | conditions
  | branches
  | findVariable (name : String)
  | findFunction (name : String) (withVariables : Bool)
  | findType (name : String)
  | findInterface (name : String)
  | findClass (name : String)
  | findMethod (name : String)
  | findProperty (name : String)
  | declaredType
  | resultType
  | value
  | body
  | apply (step : Step)
deriving DecidableEq, Repr

namespace Query

/-- The handles that a query answers with; a single one for a query that is no listing. -/
def answers (h : Handle) : Query → List Handle
  | statements => h.statements
  | variableStatements => h.variableStatements
  | functions withVariables => h.functions withVariables
  | types => h.types
  | interfaces => h.interfaces
  | classes => h.classes
  | conditionals => h.conditionals
  | methods => h.methods
  | properties => h.properties
  | parameters => h.parameters
  | conditions => h.conditions
  | branches => h.branches
  | findVariable name => [h.findVariable name]
  | findFunction name withVariables => [h.findFunction name withVariables]
  | findType name => [h.findType name]
  | findInterface name => [h.findInterface name]
  | findClass name => [h.findClass name]
  | findMethod name => [h.findMethod name]
  | findProperty name => [h.findProperty name]
  | declaredType => [h.declaredType]
  | resultType => [h.resultType]
  | value => [h.value]
  | body => [h.body]
  | apply step => [step.apply h]

/-- The step that a query takes. -/
def step? : Query → Option Step
  | findVariable name => some (.variableNamed name)
  | findFunction name withVariables => some (.functionNamed name withVariables)
  | findType name => some (.typeNamed name)
  | findInterface name => some (.interfaceNamed name)
  | findClass name => some (.classNamed name)
  | findMethod name => some (.methodNamed name)
  | findProperty name => some (.propertyNamed name)
  | declaredType => some .declaredType
  | resultType => some .resultType
  | body => some .body
  | apply step => some step
  | _ => none

theorem answers_of_step?
    {query : Query}
    {step : Step}
    (hstep : query.step? = some step)
    (h : Handle) :
    query.answers h = [step.apply h] := by
  cases query <;> cases hstep <;> rfl

end Query

namespace Handle

/-- The handles that chains of queries lead to from a text read in a context. -/
inductive Reachable (parse : Parser) (context : FragmentContext) (source : String) :
    Handle → Prop where
  | start : Reachable parse context source (inContext parse context source)
  | ask
      {h k : Handle}
      (query : Query)
      (reached : Reachable parse context source h)
      (answer : k ∈ query.answers h) :
      Reachable parse context source k

end Handle

section Containment

/-- What is passed on from a node to its children cannot be lost by a query. -/
theorem Simulation.ofHereditary
    {P : Node → Prop}
    (hP : ∀ {n c : Node}, P n → c ∈ n.children → P c) :
    Simulation fun a b => a = b ∧ P a := by
  have hself :
      ∀ {x : Option Node}, (∀ c, x = some c → P c) →
        Option.Rel (fun a b => a = b ∧ P a) x x := by
    intro x hx
    cases x with
    | none =>
        exact .none
    | some c =>
        exact .some ⟨rfl, hx c rfl⟩
  have hclause :
      ∀ {n : Node}, P n → ∀ (field : String) (c : Node),
        (n.child? field).bind Tree.firstNamed? = some c → P c := by
    intro n hn field c hc
    obtain ⟨clause, hclause, hc⟩ := Option.bind_eq_some_iff.mp hc
    exact hP (hP hn (List.mem_of_find?_eq_some hclause)) (List.mem_of_find?_eq_some hc)
  constructor
  case kind_eq =>
    rintro a _ ⟨rfl, _⟩
    rfl
  case child =>
    rintro a _ ⟨rfl, ha⟩ field
    exact hself fun c hc => hP ha (List.mem_of_find?_eq_some hc)
  case childText_eq =>
    rintro a _ ⟨rfl, _⟩ field _
    rfl
  case childrenOf =>
    rintro a _ ⟨rfl, ha⟩ shape _
    exact List.forall₂_same.mpr fun c hc => ⟨rfl, hP ha (List.mem_of_mem_filter hc)⟩
  case statements =>
    rintro a _ ⟨rfl, ha⟩
    exact List.forall₂_same.mpr fun c hc => ⟨rfl, hP ha (List.mem_of_mem_filter hc)⟩
  case literalMembers =>
    rintro a _ ⟨rfl, ha⟩
    exact List.forall₂_same.mpr fun c hc =>
      ⟨rfl, hP ha (List.mem_of_mem_filter (List.mem_of_mem_filter hc))⟩
  case typeClause =>
    rintro a _ ⟨rfl, ha⟩
    exact hself (hclause ha "type")
  case resultClause =>
    rintro a _ ⟨rfl, ha⟩
    exact hself (hclause ha "return_type")
  case hasToken_eq =>
    rintro a _ ⟨rfl, _⟩
    rfl
  case number_eq =>
    rintro a _ ⟨rfl, _⟩ _
    rfl
  case normalForm_eq =>
    rintro a _ ⟨rfl, _⟩
    rfl

/-- Every query carries related handles to related answers. -/
theorem Simulation.answers
    {R : Node → Node → Prop}
    (sim : Simulation R)
    {h k : Handle}
    (hrel : HandleRel R h k)
    (query : Query) :
    List.Forall₂ (HandleRel R) (query.answers h) (query.answers k) := by
  cases query with
  | statements =>
      simp only [Query.answers, Handle.statements]
      rcases hrel.node.eq_none_or_eq_some with ⟨ha, hb⟩ | ⟨a, b, ha, hb, hab⟩
      · rw [ha, hb]
        exact .nil
      · rw [ha, hb]
        exact (sim.scope hab).map fun _ _ hcd => sim.found hcd
  | variableStatements | types | interfaces | classes | conditionals =>
      exact sim.scopeWithShape hrel _
  | functions withVariables =>
      exact sim.functions hrel withVariables
  | methods | properties =>
      exact sim.membersOf hrel _ (by decide)
  | parameters =>
      exact sim.handleParameters hrel
  | conditions =>
      exact sim.conditions hrel
  | branches =>
      exact sim.branches hrel
  | value =>
      exact .cons (sim.value hrel) .nil
  | findVariable _ | findFunction _ _ | findType _ | findInterface _ | findClass _ | findMethod _
  | findProperty _ | declaredType | resultType | body | apply _ =>
      rw [Query.answers_of_step? rfl, Query.answers_of_step? rfl]
      exact .cons (sim.apply hrel _) .nil

namespace Handle

variable {parse : Parser} {context : FragmentContext} {source : String} {h : Handle}

/-- What holds of the node of a text, and is passed on from nodes to their children, holds of the
nodes of every handle that can be reached. -/
theorem Reachable.handleRel
    (hreach : Reachable parse context source h)
    {P : Node → Prop}
    (hP : ∀ {n c : Node}, P n → c ∈ n.children → P c)
    (hstart : ∀ n, context.read parse source = some n → P n) :
    HandleRel (fun a b => a = b ∧ P a) h h := by
  induction hreach with
  | start =>
      apply HandleRel.ofNode?
      cases hread : context.read parse source with
      | none =>
          exact .none
      | some n =>
          exact .some ⟨rfl, hstart n hread⟩
  | ask query _ answer ih =>
      -- The relation lies on the diagonal: related lists of answers are one list, all of it in `P`.
      have hanswers := (Simulation.ofHereditary hP).answers ih query
      exact List.forall₂_same.mp hanswers _ answer

/-- The node belongs to the copy of the program that hosts a text. -/
def Hosted (parse : Parser) (context : FragmentContext) (source : String) (n : Node) : Prop :=
  ∃ root,
    (parse (context.embed source)).copy (context.embed source) = .ok root ∧ n.IsSubtree root

theorem Reachable.hosted
    (hreach : Reachable parse context source h)
    {n : Node}
    (hnode : h.node = some n) :
    Hosted parse context source n := by
  have hrel : HandleRel (fun a b => a = b ∧ Hosted parse context source a) h h := by
    refine hreach.handleRel ?_ ?_
    · rintro n c ⟨root, hcopy, hn⟩ hc
      exact ⟨root, hcopy, (Tree.IsSubtree.of_mem_children hc).trans hn⟩
    · intro n hread
      obtain ⟨_, hheight, hextract⟩ := FragmentContext.read_eq_some_iff.mp hread
      exact ⟨_, ParseTree.copy_eq_ok_iff.mpr ⟨hheight, rfl⟩,
        FragmentContext.isSubtree_of_extract hextract⟩
  have hself := hrel.node
  rw [hnode] at hself
  cases hself with
  | some hn =>
      exact hn.2

end Handle
end Containment

section Fitting

/-- Whatever a query is asked on, its answers fit. -/
theorem Query.fitting_of_mem_answers
    (query : Query)
    {h k : Handle}
    (hk : k ∈ query.answers h) :
    k.Fitting := by
  cases query with
  | statements =>
      exact Handle.fitting_of_mem_statements hk
  | variableStatements | functions _ | types | interfaces | classes | conditionals =>
      exact Handle.fitting_of_mem_scopeWith hk
  | methods | properties =>
      exact Handle.fitting_of_mem_membersOf hk
  | parameters =>
      exact Handle.fitting_of_mem_parameters hk
  | conditions =>
      exact Handle.fitting_of_mem_conditions hk
  | branches =>
      exact Handle.fitting_of_mem_branches hk
  | value =>
      obtain rfl := List.mem_singleton.mp hk
      exact Handle.fitting_value
  | findVariable _ | findFunction _ _ | findType _ | findInterface _ | findClass _ | findMethod _
  | findProperty _ | declaredType | resultType | body | apply _ =>
      rw [answers_of_step? rfl] at hk
      obtain rfl := List.mem_singleton.mp hk
      exact Step.fitting_apply _ h

/-- A context places a node of the shape that it asks for. -/
theorem FragmentContext.Places.suits
    {context : FragmentContext}
    {host n : Node}
    (h : context.Places host n) :
    context.Suits n.shape := by
  cases h with
  | type =>
      exact Handle.suits_typeReference n.shape
  | member hmember _ hn =>
      obtain ⟨_, _, _, hshape, _⟩ := hn
      cases context <;> cases hmember <;> simp [Suits, hshape]

namespace Handle

variable {parse : Parser} {context : FragmentContext} {source : String} {h : Handle}

theorem fitting_inContext : (inContext parse context source).Fitting := by
  apply fitting_of_suits
  intro n hread
  by_cases hcontext : context = .generic
  · subst hcontext
    exact suits_generic n.shape
  · obtain ⟨host, _, hplaces⟩ := ((FragmentContext.read_eq_some_iff_fits hcontext).mp hread).placed
    exact hplaces.suits

theorem Reachable.fitting
    (hreach : Reachable parse context source h) :
    h.Fitting := by
  -- No induction: the handle that is asked leaves nothing in its answers.
  cases hreach with
  | start =>
      exact fitting_inContext
  | ask query _ answer =>
      exact query.fitting_of_mem_answers answer

end Handle
end Fitting

namespace Handle

/-- Every handle that a chain of queries leads to is well formed.  A node that it is on belongs to
the copy of the text's program and is not higher than that, the handle agrees with itself, its
binding is a declarator of the node that binds a function, and its context suits the node.  A handle
on nothing has no binding. -/
theorem wellFormed_of_reachable
    (parse : Parser)
    (context : FragmentContext)
    (source : String)
    (h : Handle)
    (hreach : Reachable parse context source h) :
    (∀ n, h.node = some n →
      (∃ root,
        (parse (context.embed source)).copy (context.embed source) = .ok root ∧
          n.IsSubtree root) ∧
      n.height ≤ maxDepth ∧
      h.agreesWith h = true ∧
      (∀ d, h.binding = some d →
        n.shape = .variableStatement ∧ d ∈ n.declarators ∧ d.BindsFunction) ∧
      (h.context = .method → n.shape = .method) ∧
      (h.context = .property → n.shape = .classProperty) ∧
      (h.context = .parameter → n.shape = .parameter)) ∧
    (h.node = none → h.binding = none) := by
  have hfit := hreach.fitting
  refine ⟨?_, hfit.grounded⟩
  intro n hnode
  obtain ⟨root, hcopy, hsub⟩ := hreach.hosted hnode
  have hcopied : n.Copied := ⟨_, 0, _, root, hcopy, hsub⟩
  refine ⟨⟨root, hcopy, hsub⟩, hcopied.height_le, ?_, ?_, hfit.context n hnode⟩
  · rw [agreesWith, hnode]
    exact (agree_some_iff_of_copied hcopied n).mpr rfl
  · intro d hd
    obtain ⟨m, hm, hbinding⟩ := hfit.binding d hd
    obtain rfl : n = m := Option.some.inj (hnode.symm.trans hm)
    exact hbinding

/-- The program `const f = () => 1` as a parser sees it. -/
def arrowSample : ParseTree :=
  .node ⟨"program", none, true, false, ⟨0, 17⟩⟩
    [.node ⟨"lexical_declaration", none, true, false, ⟨0, 17⟩⟩
      [.node ⟨"const", some "kind", false, false, ⟨0, 5⟩⟩ [],
       .node ⟨"variable_declarator", none, true, false, ⟨6, 17⟩⟩
        [.node ⟨"identifier", some "name", true, false, ⟨6, 7⟩⟩ [],
         .node ⟨"=", none, false, false, ⟨8, 9⟩⟩ [],
         .node ⟨"arrow_function", some "value", true, false, ⟨10, 17⟩⟩
          [.node ⟨"formal_parameters", some "parameters", true, false, ⟨10, 12⟩⟩
            [.node ⟨"(", none, false, false, ⟨10, 11⟩⟩ [],
             .node ⟨")", none, false, false, ⟨11, 12⟩⟩ []],
           .node ⟨"=>", none, false, false, ⟨13, 15⟩⟩ [],
           .node ⟨"number", some "body", true, false, ⟨16, 17⟩⟩ []]]]]

/-- The function `f` is reached through its variable statement and narrowed to its declarator. -/
theorem wellFormed_of_arrowSample :
    ∃ h n d,
      Reachable (fun _ => arrowSample) .generic "const f = () => 1" h ∧
        h.node = some n ∧
        h.binding = some d ∧
        n.height ≤ maxDepth ∧
        h.agreesWith h = true ∧
        n.shape = .variableStatement ∧
        d ∈ n.declarators ∧
        d.BindsFunction := by
  let start := inContext (fun _ => arrowSample) .generic "const f = () => 1"
  have hreach :
      Reachable (fun _ => arrowSample) .generic "const f = () => 1" (start.findFunction "f" true) :=
    .ask (.findFunction "f" true) .start (List.mem_singleton.mpr rfl)
  have hnode : (start.findFunction "f" true).node.isSome = true := by decide
  have hbinding : (start.findFunction "f" true).binding.isSome = true := by decide
  obtain ⟨n, hn⟩ := Option.isSome_iff_exists.mp hnode
  obtain ⟨d, hd⟩ := Option.isSome_iff_exists.mp hbinding
  obtain ⟨_, hheight, hagrees, hbound, _⟩ := (wellFormed_of_reachable _ _ _ _ hreach).1 n hn
  obtain ⟨hshape, hmem, hfunction⟩ := hbound d hd
  exact ⟨_, n, d, hreach, hn, hd, hheight, hagrees, hshape, hmem, hfunction⟩

end Handle
end SnippetRubric
