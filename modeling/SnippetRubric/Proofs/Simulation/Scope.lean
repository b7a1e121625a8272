import SnippetRubric.Handle.Lookup
import SnippetRubric.Proofs.Simulation.Related

/-!
# Simulations of entries

A lookup in a scope reads little of an entry: its kind, its name, its declarators with their names
and values, and the declaration that an export statement holds.  A *scope simulation* is a relation
between nodes under which these readings are related or equal (`ScopeSimulation`).  Related entries
go by the same names and bind the same names to functions.
-/

namespace SnippetRubric

/-- Callables are related when their functions are and they go by the same name. -/
def Simulation.CallableRel (R : Node → Node → Prop) (c d : Callable) : Prop :=
  R c.function d.function ∧ c.name? = d.name?

open Simulation

/-- A relation between nodes that no lookup in a scope can tell apart. -/
structure ScopeSimulation (R : Node → Node → Prop) : Prop where
  kind_eq : ∀ {a b}, R a b → a.kind = b.kind
  name_eq : ∀ {a b}, R a b → a.childText? "name" = b.childText? "name"
  value : ∀ {a b}, R a b → Option.Rel R (a.child? "value") (b.child? "value")
  declaration : ∀ {a b}, R a b → Option.Rel R (a.child? "declaration") (b.child? "declaration")
  declarators : ∀ {a b}, R a b → List.Forall₂ R a.declarators b.declarators

namespace ScopeSimulation

variable {R : Node → Node → Prop} (sim : ScopeSimulation R) {a b : Node}
include sim

section Names

theorem shape_eq
    (h : R a b) :
    a.shape = b.shape := by
  rw [Tree.shape, Tree.shape, sim.kind_eq h]

/-- Related export statements hold related declarations. -/
theorem unexported
    (h : R a b) :
    R a.unexported b.unexported := by
  unfold Tree.unexported
  rw [sim.shape_eq h]
  split
  · exact (sim.declaration h).getD h
  · exact h

theorem declaratorNames_eq
    (h : R a b) :
    a.declaratorNames = b.declaratorNames :=
  (sim.declarators h).filterMap_eq fun _ _ hcd => sim.name_eq hcd

/-- Related entries are known by the same name.  The pattern of a parameter is not read by a lookup
in a scope. -/
theorem declaredName_eq
    (h : R a b)
    (hshape : a.shape ≠ .parameter) :
    a.declaredName? = b.declaredName? := by
  unfold Tree.declaredName?
  rw [← sim.shape_eq h]
  split
  · exact (sim.declarators h).head?.bind_eq fun _ _ hcd => sim.name_eq hcd
  · rename_i hparameter
    exact absurd hparameter hshape
  · exact sim.name_eq h

theorem declares_eq
    (h : R a b)
    (hshape : a.shape ≠ .parameter)
    (name : String) :
    a.declares name = b.declares name := by
  simp only [Tree.declares, ← sim.shape_eq h, sim.declaratorNames_eq h,
    sim.declaredName_eq h hshape]

end Names

section Callables

/-- Related declarators bind related callables. -/
theorem ofDeclarator
    (h : R a b) :
    Option.Rel (CallableRel R) (Callable.ofDeclarator? a) (Callable.ofDeclarator? b) := by
  have hname := sim.name_eq h
  refine (sim.value h).bind fun c d hcd => ?_
  have hbound : CallableRel R ⟨c, a.child? "name"⟩ ⟨d, b.child? "name"⟩ := by
    refine ⟨hcd, ?_⟩
    unfold Tree.childText? at hname
    unfold Callable.name?
    cases ha : a.child? "name" with
    | none =>
        obtain hb : b.child? "name" = none := by simpa [ha] using hname.symm
        rw [hb]
        exact sim.name_eq hcd
    | some m =>
        obtain ⟨n, hb, htext⟩ : ∃ n, b.child? "name" = some n ∧ n.text = m.text := by
          simpa [ha] using hname.symm
        rw [hb]
        exact congrArg some htext.symm
  rw [sim.shape_eq hcd]
  split
  · exact .some hbound
  · exact .some hbound
  · exact .none

theorem bindings
    (h : R a b) :
    List.Forall₂ (CallableRel R) (Callable.bindings a) (Callable.bindings b) := by
  unfold Callable.bindings
  rw [sim.shape_eq h]
  split
  · exact (sim.declarators h).filterMap fun _ _ hcd => sim.ofDeclarator hcd
  · exact .nil

theorem callableOfNode
    (h : R a b) :
    Option.Rel (CallableRel R) (Callable.ofNode? a) (Callable.ofNode? b) := by
  have hself : CallableRel R ⟨a, none⟩ ⟨b, none⟩ := ⟨h, sim.name_eq h⟩
  unfold Callable.ofNode?
  rw [sim.shape_eq h]
  split
  · exact .some hself
  · exact .some hself
  · exact .some hself
  · exact .some hself
  · exact sim.ofDeclarator h
  · exact (sim.bindings h).head?
  · exact .none

/-- Related variable statements bind a name to a function with related declarators. -/
theorem functionDeclarator
    (h : R a b)
    (name : String) :
    Option.Rel R (a.functionDeclarator? name) (b.functionDeclarator? name) := by
  unfold Tree.functionDeclarator?
  rw [sim.shape_eq h]
  split
  · refine (sim.declarators h).find? fun c d hcd => ?_
    exact (sim.callableOfNode hcd).any_eq fun _ _ hcallable => by rw [hcallable.2]
  · exact .none

theorem isFunctionEntry_eq
    (h : R a b)
    (withVariables : Bool) :
    Handle.isFunctionEntry withVariables a = Handle.isFunctionEntry withVariables b := by
  unfold Handle.isFunctionEntry
  rw [sim.shape_eq h, (sim.bindings h).isEmpty_eq]

end Callables
end ScopeSimulation
end SnippetRubric
