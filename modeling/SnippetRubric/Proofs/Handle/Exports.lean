import SnippetRubric.Proofs.Handle.Reachable
import SnippetRubric.Proofs.Handle.TopLevel

/-!
# Exported declarations

An export statement stands for the declaration that it holds.  A program and the program with some
of its top-level declarations exported (`Tree.ExportsDeclarations`) therefore have the same entries
in scope, up to their places in the source and the field that an exported declaration fills in the
statement around it (`Tree.ExportsDeclarations.scope`).  This includes a program with one statement
only, where the handle of the source is on the export statement in one case and on the declaration
in the other.

The queries that read a scope give the same handles then (`Handle.relocated_answers`).
-/

namespace SnippetRubric
namespace Tree

/-- Whether the node declares a function, variables, a type, an interface or a class. -/
def isDeclaration (n : Node) : Bool :=
  n.shape == .function || n.shape == .variableStatement || n.shape == .typeAlias ||
    n.shape == .interface || n.shape == .classDecl

/-- An export statement that holds a declaration. -/
structure Exports (e d : Node) : Prop where
  kind : e.kind = "export_statement"
  named : e.named = d.named
  declaration : ∃ held, e.child? "declaration" = some held ∧ d.Relocated held

/-- A node below a program, and what becomes of it when some declarations are exported. -/
def ExportedOrKept (s t : Node) : Prop :=
  s.Displaced t ∨ s.isDeclaration = true ∧ t.Exports s

/-- A program, and the program with some of its top-level declarations exported. -/
structure ExportsDeclarations (root root' : Node) : Prop where
  program : root.kind = "program"
  program' : root'.kind = "program"
  children : List.Forall₂ ExportedOrKept root.children root'.children

section Declarations

variable {d e s t : Node}

theorem isDeclaration_cases
    (h : d.isDeclaration = true) :
    d.shape = .function ∨ d.shape = .variableStatement ∨ d.shape = .typeAlias ∨
      d.shape = .interface ∨ d.shape = .classDecl := by
  simpa [isDeclaration, or_assoc] using h

/-- A declaration is no scope, and it stands for itself. -/
theorem opensScope_of_isDeclaration
    (h : d.isDeclaration = true) :
    d.opensScope = false := by
  rcases isDeclaration_cases h with h | h | h | h | h <;> simp [opensScope, h]

theorem unexported_of_isDeclaration
    (h : d.isDeclaration = true) :
    d.unexported = d := by
  refine unexported_of_ne ?_
  rcases isDeclaration_cases h with h | h | h | h | h <;> simp [h]

theorem isComment_of_isDeclaration
    (h : d.isDeclaration = true) :
    d.isComment = false := by
  have hkind : d.kind ≠ "comment" := by
    intro hkind
    rw [isDeclaration, shape, hkind] at h
    revert h
    decide
  simpa [isComment] using hkind

theorem Exports.shape
    (h : e.Exports d) :
    e.shape = .exported :=
  shape_eq_exported_iff.mpr h.kind

/-- An export statement stands for the declaration that it holds. -/
theorem Exports.unexported
    (h : e.Exports d) :
    d.Relocated e.unexported := by
  obtain ⟨held, hheld, hrelocated⟩ := h.declaration
  rwa [unexported_of_child? h.shape hheld]

end Declarations

namespace ExportedOrKept

variable {s t : Node}

theorem isStatement_eq
    (h : s.ExportedOrKept t) :
    (s.named && !s.isComment) = (t.named && !t.isComment) := by
  rcases h with hkept | ⟨hdeclaration, hexports⟩
  · rw [isComment, isComment, pointwise_displaced.named_eq hkept, pointwise_displaced.kind_eq hkept]
  · have hcomment : t.isComment = false := by
      rw [isComment, hexports.kind]
      rfl
    rw [isComment_of_isDeclaration hdeclaration, hcomment, hexports.named]

theorem opensScope_eq
    (h : s.ExportedOrKept t) :
    s.opensScope = t.opensScope := by
  rcases h with hkept | ⟨hdeclaration, hexports⟩
  · rw [opensScope, opensScope, hkept.sameRole.shape]
  · rw [opensScope_of_isDeclaration hdeclaration, opensScope, hexports.shape]
    rfl

/-- The statement is the same entry of a scope whether it is exported or not. -/
theorem unexported
    (h : s.ExportedOrKept t) :
    s.unexported.Relocated t.unexported := by
  rcases h with hkept | ⟨hdeclaration, hexports⟩
  · exact (pointwise_displaced.simulation.unexported hkept).relocated
  · rw [unexported_of_isDeclaration hdeclaration]
    exact hexports.unexported

/-- What is a scope itself is no declaration, and is kept. -/
theorem displaced_of_opensScope
    (h : s.ExportedOrKept t)
    (hopens : s.opensScope = true) :
    s.Displaced t := by
  rcases h with hkept | ⟨hdeclaration, _⟩
  · exact hkept
  · rw [opensScope_of_isDeclaration hdeclaration] at hopens
    cases hopens

end ExportedOrKept

namespace ExportsDeclarations

variable {root root' : Node}

theorem statements
    (h : root.ExportsDeclarations root') :
    List.Forall₂ ExportedOrKept root.statements root'.statements :=
  h.children.filter fun _ _ hst => hst.isStatement_eq

theorem isLoneScope_eq
    (h : root.ExportsDeclarations root') :
    root.isLoneScope = root'.isLoneScope :=
  (singleStatement_rel h.statements).any_eq fun _ _ hst => hst.opensScope_eq

/-- Exporting declarations leaves the entries in scope as they are, whether the scope is that of the
program or that of its only statement. -/
theorem scope
    (h : root.ExportsDeclarations root') :
    List.Forall₂ Relocated (root.singleStatement?.getD root).scope
      (root'.singleStatement?.getD root').scope := by
  cases hlone : root.isLoneScope with
  | false =>
      rw [scope_of_not_isLoneScope h.program hlone,
        scope_of_not_isLoneScope h.program' (h.isLoneScope_eq ▸ hlone)]
      exact h.statements.map fun _ _ hst => hst.unexported
  | true =>
      rcases (singleStatement_rel h.statements).eq_none_or_eq_some with
        ⟨hs, _⟩ | ⟨s, t, hs, ht, hst⟩
      · rw [isLoneScope, hs] at hlone
        cases hlone
      · rw [isLoneScope, hs] at hlone
        rw [hs, ht]
        have hkept := hst.displaced_of_opensScope hlone
        exact simulation_relocated.scope hkept.relocated

end ExportsDeclarations
end Tree

/-- The steps that look for something in a scope. -/
def Step.readsScope : Step → Bool
  | variableNamed _ | functionNamed _ _ | typeNamed _ | interfaceNamed _ | classNamed _
  | conditionalAt _ => true
  | _ => false

/-- The queries that list the entries of a scope, or look for one of them. -/
def Query.readsScope : Query → Bool
  | statements | variableStatements | functions _ | types | interfaces | classes | conditionals
  | findVariable _ | findFunction _ _ | findType _ | findInterface _ | findClass _ => true
  | apply step => step.readsScope
  | _ => false

namespace Handle

/-- The same handle, up to the places of nodes and the field that the handle's node fills. -/
structure Relocated (h k : Handle) : Prop where
  node : Option.Rel Tree.Relocated h.node k.node
  context : h.context = k.context
  binding : Option.Rel Tree.Displaced h.binding k.binding

namespace Relocated

variable {h k : Handle}

theorem handleRel
    (hrel : h.Relocated k) :
    HandleRel Tree.Relocated h k :=
  ⟨hrel.node, hrel.context, hrel.binding.imp fun _ _ => Tree.Displaced.relocated⟩

theorem empty : Handle.empty.Relocated Handle.empty :=
  ⟨.none, rfl, .none⟩

theorem found
    {a b : Node}
    (hab : a.Relocated b) :
    (Handle.found a).Relocated (Handle.found b) := by
  refine ⟨.some hab, ?_, .none⟩
  exact congrArg contextOf (Tree.simulation_relocated.shape_eq hab)

/-- A handle is narrowed to the same declarator, which stands below the node and keeps its field. -/
theorem asFunction
    (hrel : h.Relocated k)
    (name : String) :
    Option.Rel Relocated (h.asFunction? name) (k.asFunction? name) := by
  refine hrel.node.bind fun a b hab => ?_
  have sim := Tree.simulation_relocated
  have hdeclarator :
      Option.Rel Tree.Displaced (a.functionDeclarator? name) (b.functionDeclarator? name) :=
    (Tree.pointwise_displaced.simulation.functionDeclarator hab.displaced name :)
  rw [sim.shape_eq hab, sim.declaredName_eq hab]
  split
  · exact hdeclarator.map fun _ _ hcd => ⟨hrel.node, hrel.context, .some hcd⟩
  · split
    · exact .some hrel
    · exact .none

theorem firstDeclaring
    (name : String)
    {candidates others : List Handle}
    (hrel : List.Forall₂ Relocated candidates others) :
    (Handle.firstDeclaring name candidates).Relocated (Handle.firstDeclaring name others) := by
  have hfirst := hrel.find? fun _ _ hcd =>
    hcd.node.any_eq fun _ _ hab => Tree.simulation_relocated.declares_eq hab name
  exact hfirst.getD empty

end Relocated

section Scopes

variable {h k : Handle} {a b : Node} (hnode : h.node = some a) (hnode' : k.node = some b)
  (hscope : List.Forall₂ Tree.Relocated a.scope b.scope)
include hnode hnode' hscope

theorem relocated_statements :
    List.Forall₂ Relocated h.statements k.statements := by
  rw [statements, statements, hnode, hnode']
  exact hscope.map fun _ _ hcd => Relocated.found hcd

theorem relocated_scopeWith
    {keep : Node → Bool}
    (hkeep : ∀ c d : Node, c.Relocated d → keep c = keep d) :
    List.Forall₂ Relocated (h.scopeWith keep) (k.scopeWith keep) := by
  rw [scopeWith, scopeWith, hnode, hnode']
  exact (hscope.filter hkeep).map fun _ _ hcd => Relocated.found hcd

theorem relocated_scopeWithShape
    (shape : Shape) :
    List.Forall₂ Relocated (h.scopeWith (·.shape == shape)) (k.scopeWith (·.shape == shape)) :=
  relocated_scopeWith hnode hnode' hscope fun _ _ hcd => by
    rw [Tree.simulation_relocated.shape_eq hcd]

theorem relocated_functions
    (withVariables : Bool) :
    List.Forall₂ Relocated (h.functions withVariables) (k.functions withVariables) :=
  relocated_scopeWith hnode hnode' hscope fun _ _ hcd =>
    Tree.simulation_relocated.scopeSimulation.isFunctionEntry_eq hcd withVariables

/-- A step that looks for something in a scope finds the same in two scopes with the same entries. -/
theorem relocated_apply
    {step : Step}
    (hstep : step.readsScope = true) :
    (step.apply h).Relocated (step.apply k) := by
  have hlists := relocated_scopeWithShape hnode hnode' hscope
  cases step with
  | variableNamed name | typeNamed name | interfaceNamed name | classNamed name =>
      exact Relocated.firstDeclaring name (hlists _)
  | functionNamed name withVariables =>
      have hfirst := (relocated_functions hnode hnode' hscope withVariables).findSome?
        fun _ _ hcd => hcd.asFunction name
      exact hfirst.getD Relocated.empty
  | conditionalAt index =>
      exact ((hlists _).getElem? index).getD Relocated.empty
  | _ =>
      cases hstep

/-- A query that reads a scope has the same answers on two scopes with the same entries. -/
theorem relocated_answers
    {query : Query}
    (hquery : query.readsScope = true) :
    List.Forall₂ Relocated (query.answers h) (query.answers k) := by
  cases query with
  | statements =>
      exact relocated_statements hnode hnode' hscope
  | variableStatements | types | interfaces | classes | conditionals =>
      exact relocated_scopeWithShape hnode hnode' hscope _
  | functions withVariables =>
      exact relocated_functions hnode hnode' hscope withVariables
  | findVariable _ | findFunction _ _ | findType _ | findInterface _ | findClass _ =>
      rw [Query.answers_of_step? rfl, Query.answers_of_step? rfl]
      exact .cons (relocated_apply hnode hnode' hscope rfl) .nil
  | apply step =>
      exact .cons (relocated_apply hnode hnode' hscope hquery) .nil
  | _ =>
      cases hquery

end Scopes
end Handle
end SnippetRubric
