import SnippetRubric.Rubric.Basic

/-!
# Fitting handles

A handle *fits* its node when its context suits the shape of the node, and its binding, if it has
one, is a declarator of the node that binds a function.  A handle without a node has no binding
then.

A query builds its answers from the nodes that it finds, and the handle that it is asked on leaves
no trace in them: whatever a step is applied to, its answer fits (`Step.fitting_apply`).
-/

namespace SnippetRubric

/-- The shape that a context asks of the node that its texts are compared with. -/
def FragmentContext.Suits (context : FragmentContext) (shape : Shape) : Prop :=
  (context = .method → shape = .method) ∧
    (context = .property → shape = .classProperty) ∧
    (context = .parameter → shape = .parameter)

/-- A declarator whose value is a function. -/
def Tree.BindsFunction (declarator : Node) : Prop :=
  ∃ value, declarator.child? "value" = some value ∧
    (value.shape = .arrow ∨ value.shape = .functionExpression)

theorem Callable.bindsFunction_of_ofDeclarator?
    {declarator : Node}
    {callable : Callable}
    (h : Callable.ofDeclarator? declarator = some callable) :
    declarator.BindsFunction := by
  obtain ⟨value, hvalue, h⟩ := Option.bind_eq_some_iff.mp h
  refine ⟨value, hvalue, ?_⟩
  split at h
  · rename_i hshape
    exact Or.inl hshape
  · rename_i hshape
    exact Or.inr hshape
  · cases h

/-- A name is bound to a function by a declarator of a variable statement that has a function as its
value. -/
theorem Tree.ofDeclarator?_of_functionDeclarator?
    {n declarator : Node}
    {name : String}
    (h : n.functionDeclarator? name = some declarator) :
    n.shape = .variableStatement ∧
      declarator ∈ n.declarators ∧
      ∃ callable, Callable.ofDeclarator? declarator = some callable := by
  unfold Tree.functionDeclarator? at h
  split at h
  · rename_i hshape
    have hmem := List.mem_of_find?_eq_some h
    have hnamed := List.find?_some h
    have hdeclarator : declarator.shape = .declarator := by
      simpa using (List.mem_filter.mp hmem).2
    refine ⟨hshape, hmem, ?_⟩
    cases hcallable : Callable.ofNode? declarator with
    | none =>
        simp [hcallable] at hnamed
    | some callable =>
        rw [Callable.ofNode?, hdeclarator] at hcallable
        exact ⟨callable, hcallable⟩
  · cases h

namespace Handle

/-- The context and the binding of a handle fit its node. -/
structure Fitting (h : Handle) : Prop where
  context : ∀ n, h.node = some n → h.context.Suits n.shape
  binding : ∀ d, h.binding = some d →
    ∃ n, h.node = some n ∧ n.shape = .variableStatement ∧ d ∈ n.declarators ∧ d.BindsFunction

theorem fitting_of_suits
    {context : FragmentContext}
    {node : Option Node}
    (hsuits : ∀ n, node = some n → context.Suits n.shape) :
    (ofNode? context node).Fitting where
  context := hsuits
  binding := fun _ hd => nomatch hd

theorem suits_generic
    (shape : Shape) :
    FragmentContext.generic.Suits shape := by
  simp [FragmentContext.Suits]

theorem suits_typeReference
    (shape : Shape) :
    FragmentContext.typeReference.Suits shape := by
  simp [FragmentContext.Suits]

theorem suits_contextOf
    (shape : Shape) :
    (contextOf shape).Suits shape := by
  cases shape <;> simp [FragmentContext.Suits, contextOf]

theorem fitting_empty : empty.Fitting :=
  fitting_of_suits fun _ hn => nomatch hn

theorem fitting_generic
    (node : Option Node) :
    (ofNode? .generic node).Fitting :=
  fitting_of_suits fun n _ => suits_generic n.shape

theorem fitting_typeReference
    (node : Option Node) :
    (ofNode? .typeReference node).Fitting :=
  fitting_of_suits fun n _ => suits_typeReference n.shape

theorem fitting_found
    (n : Node) :
    (found n).Fitting := by
  apply fitting_of_suits
  intro m hm
  obtain rfl : n = m := Option.some.inj hm
  exact suits_contextOf n.shape

theorem Fitting.getD
    {picked : Option Handle}
    (hpicked : ∀ h, picked = some h → h.Fitting) :
    (picked.getD empty).Fitting := by
  cases picked with
  | none =>
      exact fitting_empty
  | some h =>
      exact hpicked h rfl

section Listings

variable {h x : Handle}

/-- Listings answer with handles on nodes that they find. -/
theorem fitting_of_mem_found
    (node : Option Node)
    (entries : Node → List Node)
    (hx : x ∈ match node with
      | some n => (entries n).map found
      | none => []) :
    x.Fitting := by
  cases node with
  | none =>
      simp at hx
  | some n =>
      obtain ⟨entry, _, rfl⟩ := List.mem_map.mp hx
      exact fitting_found entry

theorem fitting_of_mem_statements
    (hx : x ∈ h.statements) :
    x.Fitting :=
  fitting_of_mem_found h.node Tree.scope hx

theorem fitting_of_mem_scopeWith
    {keep : Node → Bool}
    (hx : x ∈ h.scopeWith keep) :
    x.Fitting :=
  fitting_of_mem_found h.node (fun n => n.scope.filter keep) hx

theorem fitting_of_mem_membersOf
    {shape : Shape}
    (hx : x ∈ h.membersOf shape) :
    x.Fitting :=
  fitting_of_mem_found h.node (fun n => n.classMembers shape) hx

theorem fitting_of_mem_parameters
    (hx : x ∈ h.parameters) :
    x.Fitting :=
  fitting_of_mem_found h.focus Tree.parameters hx

theorem fitting_of_mem_conditions
    (hx : x ∈ h.conditions) :
    x.Fitting := by
  unfold conditions at hx
  split at hx
  · rcases List.mem_append.mp hx with hx | hx
    · obtain ⟨n, _, rfl⟩ := List.mem_map.mp hx
      exact fitting_generic (some n)
    · obtain ⟨_, _, rfl⟩ := List.mem_map.mp hx
      exact fitting_empty
  · simp at hx

theorem fitting_of_mem_branches
    (hx : x ∈ h.branches) :
    x.Fitting := by
  unfold branches at hx
  split at hx
  · obtain ⟨n, _, rfl⟩ := List.mem_map.mp hx
    exact fitting_generic (some n)
  · simp at hx

end Listings

section Single

variable {h : Handle}

theorem fitting_firstDeclaring
    (name : String)
    {candidates : List Handle}
    (hcandidates : ∀ x ∈ candidates, x.Fitting) :
    (firstDeclaring name candidates).Fitting :=
  Fitting.getD fun x hx => hcandidates x (List.mem_of_find?_eq_some hx)

/-- A handle on a variable statement is narrowed to a declarator that binds a function. -/
theorem Fitting.of_asFunction?
    {k : Handle}
    {name : String}
    (hfit : h.Fitting)
    (hk : h.asFunction? name = some k) :
    k.Fitting := by
  obtain ⟨n, hnode, hk⟩ := Option.bind_eq_some_iff.mp hk
  split at hk
  · obtain ⟨declarator, hdeclarator, rfl⟩ := Option.map_eq_some_iff.mp hk
    refine ⟨hfit.context, fun d hd => ?_⟩
    obtain rfl : declarator = d := Option.some.inj hd
    obtain ⟨hshape, hmem, callable, hcallable⟩ :=
      Tree.ofDeclarator?_of_functionDeclarator? hdeclarator
    exact ⟨n, hnode, hshape, hmem, Callable.bindsFunction_of_ofDeclarator? hcallable⟩
  · split at hk
    · cases hk
      exact hfit
    · cases hk

theorem fitting_findFunction
    (name : String)
    (withVariables : Bool) :
    (h.findFunction name withVariables).Fitting := by
  apply Fitting.getD
  intro k hk
  obtain ⟨x, hx, hxk⟩ := List.exists_of_findSome?_eq_some hk
  exact (fitting_of_mem_scopeWith hx).of_asFunction? hxk

theorem fitting_value : h.value.Fitting := by
  apply Fitting.getD
  intro k hk
  obtain ⟨n, _, rfl⟩ := Option.map_eq_some_iff.mp hk
  exact fitting_found n

end Single
end Handle

/-- Whatever a step is applied to, its answer fits. -/
theorem Step.fitting_apply
    (step : Step)
    (h : Handle) :
    (step.apply h).Fitting := by
  open Handle in
  cases step with
  | variableNamed name | typeNamed name | interfaceNamed name | classNamed name =>
      exact fitting_firstDeclaring name fun _ => fitting_of_mem_scopeWith
  | functionNamed name withVariables =>
      exact fitting_findFunction name withVariables
  | methodNamed name | propertyNamed name =>
      exact fitting_firstDeclaring name fun _ => fitting_of_mem_membersOf
  | parameterAt index =>
      exact Fitting.getD fun _ hx => fitting_of_mem_parameters (List.mem_of_getElem? hx)
  | conditionalAt index =>
      exact Fitting.getD fun _ hx => fitting_of_mem_scopeWith (List.mem_of_getElem? hx)
  | conditionAt index =>
      exact Fitting.getD fun _ hx => fitting_of_mem_conditions (List.mem_of_getElem? hx)
  | branchAt index =>
      exact Fitting.getD fun _ hx => fitting_of_mem_branches (List.mem_of_getElem? hx)
  | declaredType | resultType =>
      exact fitting_typeReference _
  | body =>
      exact fitting_generic _

end SnippetRubric
