import SnippetRubric.Proofs.Handle.Fitting

/-!
# Empty handles stay empty

A handle is *grounded* when it has no binding without a node.  Every step answers with a grounded
handle (`Step.grounded_apply`), and every step from a grounded handle that is empty answers with an
empty one again (`Step.isEmpty_apply`).  `isEmpty_foldl_apply` carries this over to any number of
steps.
-/

namespace SnippetRubric
namespace Handle

@[simp] theorem isEmpty_empty : empty.isEmpty = true := rfl

@[simp] theorem node_found (n : Node) : (found n).node = some n := rfl

/-- A handle on nothing has no binding either. -/
def Grounded (h : Handle) : Prop :=
  h.node = none → h.binding = none

theorem grounded_ofNode?
    (context : FragmentContext)
    (n : Option Node) :
    (ofNode? context n).Grounded :=
  fun _ => rfl

theorem Fitting.grounded
    {h : Handle}
    (hfit : h.Fitting) :
    h.Grounded := by
  intro hnone
  cases hbinding : h.binding with
  | none =>
      rfl
  | some d =>
      obtain ⟨n, hnode, _⟩ := hfit.binding d hbinding
      rw [hnone] at hnode
      cases hnode

end Handle

namespace Step

open Handle

/-- Whatever a step is applied to, it answers with a grounded handle. -/
theorem grounded_apply
    (step : Step)
    (h : Handle) :
    (step.apply h).Grounded :=
  (step.fitting_apply h).grounded

/-- Every step from a grounded empty handle finds nothing. -/
theorem isEmpty_apply
    (step : Step)
    {h : Handle}
    (hground : h.Grounded)
    (hempty : h.isEmpty = true) :
    (step.apply h).isEmpty = true := by
  obtain ⟨node, context, binding⟩ := h
  have hnode : node = none := Option.isNone_iff_eq_none.mp hempty
  have hbinding : binding = none := hground hnode
  subst hnode hbinding
  -- Neither a node nor a binding is left, so that each listing computes to the empty list.
  cases step <;> rfl

end Step

/-- Any number of steps from a grounded empty handle finds nothing. -/
theorem isEmpty_foldl_apply
    (steps : List Step)
    {h : Handle}
    (hground : h.Grounded)
    (hempty : h.isEmpty = true) :
    (steps.foldl Step.apply h).isEmpty = true := by
  induction steps generalizing h with
  | nil =>
      exact hempty
  | cons step rest ih =>
      exact ih (step.grounded_apply h) (step.isEmpty_apply hground hempty)

end SnippetRubric
