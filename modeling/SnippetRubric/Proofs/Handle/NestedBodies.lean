import SnippetRubric.Proofs.Handle.TopLevel

/-!
# Nested bodies do not show

A lookup in a scope reads little of an entry: its kind, its name, its declarators with their names,
and whether a declarator's value is a function.  None of this is read from a *body*, a node in the
field `body` of the node above it.

`Tree.BodiesReplaced` is the relation of a node to what becomes of it when bodies below it are
replaced by arbitrary others, at any depth and any number of them.  Entries that stay, with bodies
replaced strictly below them, are related as the lookups in a scope want them to be
(`Tree.SameButBodies.scopeSimulation`).

The main statement is `Handle.lookups_ignore_nested_bodies`: two scopes that differ in nested bodies
only have the same names, found by the same lookups.
-/

namespace SnippetRubric
namespace Tree

/-- A node, and what becomes of it when bodies are replaced: it is a body that makes place for
another one, or it stays, keeps its text if it is a name, and has bodies replaced below it. -/
inductive BodiesReplaced : Node → Node → Prop
  | replaced
      {a b : Node}
      (old : a.field = some "body")
      (new : b.field = some "body")
      (oldKind : a.kind ≠ "variable_declarator")
      (newKind : b.kind ≠ "variable_declarator") :
      BodiesReplaced a b
  | kept
      {a b : Node}
      (role : a.SameRole b)
      (name : a.field = some "name" → a.text = b.text)
      (children : List.Forall₂ BodiesReplaced a.children b.children) :
      BodiesReplaced a b

/-- A node that stays, with bodies replaced strictly below it. -/
structure SameButBodies (a b : Node) : Prop extends SameRole a b where
  name : a.field = some "name" → a.text = b.text
  children : List.Forall₂ BodiesReplaced a.children b.children

/-- A program, a block or a class body whose entries stay, with bodies replaced strictly below
them. -/
structure NestedBodiesReplaced (a b : Node) : Prop extends SameRole a b where
  opensScope : a.opensScope = true
  entries : List.Forall₂ SameButBodies a.children b.children

/-- Declarators are of one kind only. -/
theorem kind_of_shape_declarator
    {a : Node}
    (h : a.shape = .declarator) :
    a.kind = "variable_declarator" := by
  simpa [Shape.kinds] using Shape.mem_kinds_of_ofKind h (by decide)

namespace BodiesReplaced

variable {a b : Node}

theorem field_eq
    (h : BodiesReplaced a b) :
    a.field = b.field := by
  cases h with
  | replaced old new =>
      rw [old, new]
  | kept role =>
      exact role.field

/-- What is in another field than a body stays. -/
theorem sameButBodies
    (h : BodiesReplaced a b)
    (hfield : a.field ≠ some "body") :
    a.SameButBodies b := by
  cases h with
  | replaced old =>
      exact absurd old hfield
  | kept role name children =>
      exact ⟨role, name, children⟩

/-- A declarator stays, and nothing else becomes one. -/
theorem isDeclarator_eq
    (h : BodiesReplaced a b) :
    (a.shape == .declarator) = (b.shape == .declarator) := by
  cases h with
  | replaced _ _ oldKind newKind =>
      have ha : a.shape ≠ .declarator := mt kind_of_shape_declarator oldKind
      have hb : b.shape ≠ .declarator := mt kind_of_shape_declarator newKind
      simp [ha, hb]
  | kept role =>
      rw [role.shape]

theorem sameButBodies_of_declarator
    (h : BodiesReplaced a b)
    (hshape : a.shape = .declarator) :
    a.SameButBodies b := by
  cases h with
  | replaced _ _ oldKind =>
      exact absurd (kind_of_shape_declarator hshape) oldKind
  | kept role name children =>
      exact ⟨role, name, children⟩

end BodiesReplaced

namespace SameButBodies

variable {a b : Node}

theorem child
    (h : a.SameButBodies b)
    (field : String)
    (hfield : field ≠ "body") :
    Option.Rel SameButBodies (a.child? field) (b.child? field) := by
  have hfound : Option.Rel BodiesReplaced (a.child? field) (b.child? field) :=
    h.children.find? fun _ _ hcd => by rw [hcd.field_eq]
  refine hfound.imp_of_eq_some fun c d hc _ hcd => hcd.sameButBodies ?_
  simpa [field_of_child? hc] using hfield

/-- The texts of names are kept. -/
theorem childText_eq
    (h : a.SameButBodies b) :
    a.childText? "name" = b.childText? "name" := by
  unfold childText?
  rcases (h.child "name" (by decide)).eq_none_or_eq_some with ⟨ha, hb⟩ | ⟨c, d, ha, hb, hcd⟩
  · rw [ha, hb]
  · rw [ha, hb, Option.map_some, Option.map_some, hcd.name (field_of_child? ha)]

theorem declarators
    (h : a.SameButBodies b) :
    List.Forall₂ SameButBodies a.declarators b.declarators := by
  have hfiltered : List.Forall₂ BodiesReplaced a.declarators b.declarators :=
    h.children.filter fun _ _ hcd => hcd.isDeclarator_eq
  rw [List.forall₂_iff_zip] at hfiltered ⊢
  refine ⟨hfiltered.1, fun {c d} hzip => ?_⟩
  have hshape : c.shape = .declarator := by
    simpa using (List.mem_filter.mp (List.of_mem_zip hzip).1).2
  exact (hfiltered.2 hzip).sameButBodies_of_declarator hshape

/-- Nothing that a lookup in a scope reads of an entry stands in a body. -/
theorem scopeSimulation : ScopeSimulation SameButBodies where
  kind_eq := fun h => h.kind
  name_eq := childText_eq
  value := fun h => h.child "value" (by decide)
  declaration := fun h => h.child "declaration" (by decide)
  declarators := declarators

end SameButBodies

/-- The entries of a scope stay when nested bodies are replaced. -/
theorem NestedBodiesReplaced.scope
    {a b : Node}
    (h : a.NestedBodiesReplaced b) :
    List.Forall₂ SameButBodies a.scope b.scope := by
  have hstatements : List.Forall₂ SameButBodies a.statements b.statements :=
    h.entries.filter fun c d hcd => by
      rw [isComment, isComment, hcd.named, hcd.kind]
  have hopens : b.opensScope = true := by
    rw [Tree.opensScope, ← h.shape]
    exact h.opensScope
  rw [Tree.scope, Tree.scope, if_pos h.opensScope, if_pos hopens]
  exact hstatements.map fun _ _ hcd => SameButBodies.scopeSimulation.unexported hcd

end Tree

namespace Handle

/-- Two scopes that differ in nested bodies only declare the same names: the same lookups by name
find something, and the listings have the same names in the same order. -/
theorem lookups_ignore_nested_bodies
    {h k : Handle}
    {a b : Node}
    (hnode : h.node = some a)
    (hnode' : k.node = some b)
    (hbodies : a.NestedBodiesReplaced b) :
    (∀ name,
      (h.findVariable name).isEmpty = (k.findVariable name).isEmpty ∧
      (∀ withVariables,
        (h.findFunction name withVariables).isEmpty =
          (k.findFunction name withVariables).isEmpty) ∧
      (h.findType name).isEmpty = (k.findType name).isEmpty ∧
      (h.findInterface name).isEmpty = (k.findInterface name).isEmpty ∧
      (h.findClass name).isEmpty = (k.findClass name).isEmpty) ∧
    h.variableStatements.map name? = k.variableStatements.map name? ∧
    (∀ withVariables,
      (h.functions withVariables).map name? = (k.functions withVariables).map name?) ∧
    h.types.map name? = k.types.map name? ∧
    h.interfaces.map name? = k.interfaces.map name? ∧
    h.classes.map name? = k.classes.map name? ∧
    h.conditionals.map name? = k.conditionals.map name? := by
  have sim := Tree.SameButBodies.scopeSimulation
  have hscope := hbodies.scope
  have hfinds : ∀ step : Step, step.looksInScope = true →
      (step.apply h).isEmpty = (step.apply k).isEmpty := by
    intro step hstep
    exact sim.isEmpty_apply_eq hscope hnode hnode' hstep
  have hlists : ∀ shape, shape ≠ .parameter →
      (h.scopeWith (·.shape == shape)).map name? = (k.scopeWith (·.shape == shape)).map name? := by
    intro shape hshape
    refine sim.names_scopeWith_eq hscope hnode hnode' (fun c d hcd => ?_) fun c hc => ?_
    · rw [sim.shape_eq hcd]
    · rwa [beq_iff_eq.mp hc]
  refine ⟨fun name => ⟨hfinds (.variableNamed name) rfl, fun withVariables => ?_,
    hfinds (.typeNamed name) rfl, hfinds (.interfaceNamed name) rfl, hfinds (.classNamed name) rfl⟩,
    hlists _ (by decide), fun withVariables => ?_, hlists _ (by decide), hlists _ (by decide),
    hlists _ (by decide), hlists _ (by decide)⟩
  · exact hfinds (.functionNamed name withVariables) rfl
  · refine sim.names_scopeWith_eq hscope hnode hnode'
      (fun c d hcd => sim.isFunctionEntry_eq hcd withVariables) fun c hc => ?_
    exact shape_ne_parameter_of_isFunctionEntry hc

section Samples

/-- The program `export const f = () => …` as a parser sees it, with a body that ends at `stop`. -/
def arrowProgramSample (stop : Nat) (body : ParseTree) : ParseTree :=
  .node ⟨"program", none, true, false, ⟨0, stop⟩⟩
    [.node ⟨"export_statement", none, true, false, ⟨0, stop⟩⟩
      [.node ⟨"export", none, false, false, ⟨0, 6⟩⟩ [],
       .node ⟨"lexical_declaration", some "declaration", true, false, ⟨7, stop⟩⟩
        [.node ⟨"const", some "kind", false, false, ⟨7, 12⟩⟩ [],
         .node ⟨"variable_declarator", none, true, false, ⟨13, stop⟩⟩
          [.node ⟨"identifier", some "name", true, false, ⟨13, 14⟩⟩ [],
           .node ⟨"=", none, false, false, ⟨15, 16⟩⟩ [],
           .node ⟨"arrow_function", some "value", true, false, ⟨17, stop⟩⟩
            [.node ⟨"formal_parameters", some "parameters", true, false, ⟨17, 19⟩⟩ [],
             .node ⟨"=>", none, false, false, ⟨20, 22⟩⟩ [],
             body]]]]]

/-- A body `{ let a; }` that declares a variable. -/
def declaringBodySample : ParseTree :=
  .node ⟨"statement_block", some "body", true, false, ⟨23, 33⟩⟩
    [.node ⟨"\x7b", none, false, false, ⟨23, 24⟩⟩ [],
     .node ⟨"lexical_declaration", none, true, false, ⟨25, 31⟩⟩
      [.node ⟨"let", some "kind", false, false, ⟨25, 28⟩⟩ [],
       .node ⟨"variable_declarator", none, true, false, ⟨29, 30⟩⟩
        [.node ⟨"identifier", some "name", true, false, ⟨29, 30⟩⟩ []],
       .node ⟨";", none, false, false, ⟨30, 31⟩⟩ []],
     .node ⟨"\x7d", none, false, false, ⟨32, 33⟩⟩ []]

/-- The program with a declaration in the body of its function. -/
def declaringProgram : Node :=
  (arrowProgramSample 33 declaringBodySample).excerpted
    "export const f = () => \x7b let a; \x7d"

/-- The program with an expression for the body of its function. -/
def expressionProgram : Node :=
  (arrowProgramSample 24 (.node ⟨"identifier", some "body", true, false, ⟨23, 24⟩⟩ [])).excerpted
    "export const f = () => a"

theorem nestedBodiesReplaced_arrowProgramSample :
    declaringProgram.NestedBodiesReplaced expressionProgram := by
  -- the export statement, its declaration, the declarator and the function stay
  refine ⟨by decide, by decide, .cons ?_ .nil⟩
  refine ⟨by decide, by decide, .cons ?_ (.cons ?_ .nil)⟩
  · exact .kept (by decide) (by decide) .nil
  refine .kept (by decide) (by decide) (.cons ?_ (.cons ?_ .nil))
  · exact .kept (by decide) (by decide) .nil
  refine .kept (by decide) (by decide) (.cons ?_ (.cons ?_ (.cons ?_ .nil)))
  · exact .kept (by decide) (by decide) .nil
  · exact .kept (by decide) (by decide) .nil
  refine .kept (by decide) (by decide) (.cons ?_ (.cons ?_ (.cons ?_ .nil)))
  · exact .kept (by decide) (by decide) .nil
  · exact .kept (by decide) (by decide) .nil
  -- its body is replaced
  · exact .replaced rfl rfl (by decide) (by decide)

/-- The variable in the body is found in neither of the programs, and both list the function. -/
theorem lookups_ignore_body_of_arrowProgramSample :
    declaringProgram.NestedBodiesReplaced expressionProgram ∧
      ((ofNode .generic declaringProgram).findVariable "a").isEmpty = true ∧
      ((ofNode .generic expressionProgram).findVariable "a").isEmpty = true ∧
      ((ofNode .generic declaringProgram).functions true).map name? = [some "f"] ∧
      ((ofNode .generic expressionProgram).functions true).map name? = [some "f"] := by
  obtain ⟨hfinds, _, hfunctions, _⟩ :=
    lookups_ignore_nested_bodies (h := ofNode .generic declaringProgram)
      (k := ofNode .generic expressionProgram) rfl rfl nestedBodiesReplaced_arrowProgramSample
  have hempty : ((ofNode .generic declaringProgram).findVariable "a").isEmpty = true := by decide
  have hnames : ((ofNode .generic declaringProgram).functions true).map name? = [some "f"] := by
    decide
  exact ⟨nestedBodiesReplaced_arrowProgramSample, hempty, (hfinds "a").1 ▸ hempty, hnames,
    hfunctions true ▸ hnames⟩

end Samples

end Handle
end SnippetRubric
