import SnippetRubric.Proofs.Fragment.Reading
import SnippetRubric.Proofs.Handle.Source
import SnippetRubric.Proofs.Simulation.Displaced
import SnippetRubric.Proofs.Simulation.Handle

/-!
# The top level of a source

The handle of a source is on the program, or on the only statement of the program.  Either way its
scope holds the program's own statements, with one exception: where the only statement is a scope
itself, as a block is, the handle is on that statement and its scope is what the statement holds
(`Tree.scope_of_isLoneScope`).

Apart from that the scope of a source grows with the source.  A statement that is added leaves all
entries in the scope, and whether a lookup by name takes an entry does not depend on the place of
the entry (`ScopeSimulation.takes_eq`).

The main statement is `Handle.scope_ofSource_is_topLevel`, and `Handle.scope_of_blockSample` is an
instance of the exception.
-/

namespace SnippetRubric

namespace Tree

/-- Whether the only statement of a program is a scope itself. -/
def isLoneScope (root : Node) : Bool :=
  root.singleStatement?.any opensScope

/-- A program has the statements of another one, at other places perhaps, and one more among
them. -/
def AddsStatement (root longer : Node) : Prop :=
  ∃ before added after,
    root.statements.map unplaced = before ++ after ∧
      longer.statements.map unplaced = before ++ added :: after

variable {root longer s : Node}

theorem opensScope_of_program
    (hroot : root.kind = "program") :
    root.opensScope = true := by
  have hshape : root.shape = .program := by
    rw [shape, hroot]
    rfl
  simp [opensScope, hshape]

/-- A program and its only statement have the same entries, unless the statement is a scope. -/
theorem scope_of_not_isLoneScope
    (hroot : root.kind = "program")
    (hlone : root.isLoneScope = false) :
    (root.singleStatement?.getD root).scope = root.statements.map unexported := by
  cases hsingle : root.singleStatement? with
  | none =>
      rw [Option.getD_none, scope, if_pos (opensScope_of_program hroot)]
  | some s =>
      have hs : s.opensScope = false := by
        simpa [isLoneScope, hsingle] using hlone
      rw [Option.getD_some, scope, if_neg (by simp [hs]), singleStatement?_eq_some_iff.mp hsingle]
      rfl

/-- Where the only statement of a program is a scope, its own statements are the entries. -/
theorem scope_of_isLoneScope
    (hs : root.statements = [s])
    (hlone : root.isLoneScope = true) :
    (root.singleStatement?.getD root).scope = s.statements.map unexported := by
  have hsingle := singleStatement?_eq_some_iff.mpr hs
  have hopens : s.opensScope = true := by
    simpa [isLoneScope, hsingle] using hlone
  rw [hsingle, Option.getD_some, scope, if_pos hopens]

/-- Every statement is still there when one is added. -/
theorem AddsStatement.exists_displaced
    (hadds : root.AddsStatement longer)
    (hs : s ∈ root.statements) :
    ∃ s' ∈ longer.statements, s.Displaced s' := by
  obtain ⟨before, added, after, hroot, hlonger⟩ := hadds
  have hold : s.unplaced ∈ before ++ after := hroot ▸ List.mem_map_of_mem hs
  have hnew : s.unplaced ∈ longer.statements.map unplaced := by
    rw [hlonger]
    rcases List.mem_append.mp hold with hbefore | hafter
    · exact List.mem_append_left _ hbefore
    · exact List.mem_append_right _ (List.mem_cons_of_mem _ hafter)
  obtain ⟨s', hs', hplaced⟩ := List.mem_map.mp hnew
  exact ⟨s', hs', hplaced.symm⟩

/-- A statement that is added to a program with statements is not the only one. -/
theorem AddsStatement.isLoneScope_eq_false
    (hadds : root.AddsStatement longer)
    (hs : s ∈ root.statements) :
    longer.isLoneScope = false := by
  obtain ⟨before, added, after, hroot, hlonger⟩ := hadds
  have hcount := congrArg List.length hroot
  have hcount' := congrArg List.length hlonger
  have hpos := List.length_pos_of_mem hs
  have hnone : longer.singleStatement? = none := by
    rw [Option.eq_none_iff_forall_ne_some]
    intro d hd
    rw [singleStatement?_eq_some_iff.mp hd] at hcount'
    simp only [List.length_map, List.length_append, List.length_cons, List.length_nil]
      at hcount hcount'
    omega
  rw [isLoneScope, hnone]
  rfl

end Tree

namespace Step

/-- The steps that look for a name in a scope. -/
def looksInScope : Step → Bool
  | variableNamed _ | functionNamed _ _ | typeNamed _ | interfaceNamed _ | classNamed _ => true
  | _ => false

/-- Whether a step that looks for a name in a scope takes an entry for what it looks for. -/
def takes (d : Node) : Step → Bool
  | variableNamed name => d.shape == .variableStatement && d.declares name
  | functionNamed name withVariables =>
      Handle.isFunctionEntry withVariables d && ((Handle.found d).asFunction? name).isSome
  | typeNamed name => d.shape == .typeAlias && d.declares name
  | interfaceNamed name => d.shape == .interface && d.declares name
  | classNamed name => d.shape == .classDecl && d.declares name
  | _ => false

theorem isEmpty_apply_iff
    {step : Step}
    (hstep : step.looksInScope = true)
    {h : Handle}
    {n : Node}
    (hnode : h.node = some n) :
    (step.apply h).isEmpty = true ↔ ∀ d ∈ n.scope, step.takes d = false := by
  cases step with
  | variableNamed name | typeNamed name | interfaceNamed name | classNamed name =>
      refine (Handle.isEmpty_firstDeclaring_scopeWith_iff hnode name _).trans ?_
      simp [takes]
  | functionNamed name withVariables =>
      refine (Handle.isEmpty_findFunction_iff hnode name withVariables).trans ?_
      simp [takes]
  | _ =>
      cases hstep

/-- A lookup by name finds something when it takes an entry of the scope. -/
theorem isEmpty_apply_eq_false_iff
    {step : Step}
    (hstep : step.looksInScope = true)
    {h : Handle}
    {n : Node}
    (hnode : h.node = some n) :
    (step.apply h).isEmpty = false ↔ ∃ d ∈ n.scope, step.takes d = true := by
  rw [← Bool.not_eq_true, isEmpty_apply_iff hstep hnode]
  simp

end Step

/-- No parameter counts as a function. -/
theorem Handle.shape_ne_parameter_of_isFunctionEntry
    {withVariables : Bool}
    {d : Node}
    (hentry : isFunctionEntry withVariables d = true) :
    d.shape ≠ .parameter := by
  intro hparameter
  simp [isFunctionEntry, hparameter] at hentry

namespace ScopeSimulation

variable {R : Node → Node → Prop} (sim : ScopeSimulation R) {a b : Node}
include sim

theorem isSome_asFunction_eq
    (h : R a b)
    (hshape : a.shape ≠ .parameter)
    (name : String) :
    ((Handle.found a).asFunction? name).isSome = ((Handle.found b).asFunction? name).isSome := by
  simp only [Handle.asFunction?, Handle.node_found, Option.bind_some, ← sim.shape_eq h,
    ← sim.declaredName_eq h hshape]
  split
  · rw [Option.isSome_map, Option.isSome_map, (sim.functionDeclarator h name).isSome_eq]
  · split
    · rfl
    · rfl

/-- Both of two related entries have a shape and declare a name, or neither does. -/
theorem declaresWithShape_eq
    (h : R a b)
    (shape : Shape)
    (hshape : shape ≠ .parameter)
    (name : String) :
    (a.shape == shape && a.declares name) = (b.shape == shape && b.declares name) := by
  rw [← sim.shape_eq h]
  by_cases ha : a.shape = shape
  · rw [sim.declares_eq h (ha ▸ hshape) name]
  · rw [beq_eq_false_iff_ne.mpr ha, Bool.false_and, Bool.false_and]

/-- A step takes both of two related entries, or neither. -/
theorem takes_eq
    (h : R a b)
    (step : Step) :
    step.takes a = step.takes b := by
  cases step with
  | variableNamed name | typeNamed name | interfaceNamed name | classNamed name =>
      exact sim.declaresWithShape_eq h _ (by decide) name
  | functionNamed name withVariables =>
      simp only [Step.takes, ← sim.isFunctionEntry_eq h withVariables]
      cases hentry : Handle.isFunctionEntry withVariables a with
      | false =>
          rfl
      | true =>
          have hshape := Handle.shape_ne_parameter_of_isFunctionEntry hentry
          rw [sim.isSome_asFunction_eq h hshape name]
  | _ =>
      rfl

variable {h k : Handle} (hscope : List.Forall₂ R a.scope b.scope) (hnode : h.node = some a)
  (hnode' : k.node = some b)
include hscope hnode hnode'

/-- A lookup by name finds something in both of two related scopes, or in neither. -/
theorem isEmpty_apply_eq
    {step : Step}
    (hstep : step.looksInScope = true) :
    (step.apply h).isEmpty = (step.apply k).isEmpty := by
  rw [Bool.eq_iff_iff, Step.isEmpty_apply_iff hstep hnode, Step.isEmpty_apply_iff hstep hnode']
  have hfound := (hscope.find? fun c d hcd => sim.takes_eq hcd step).isSome_eq
  rw [Bool.eq_iff_iff, List.isSome_find?, List.isSome_find?] at hfound
  simpa using not_congr hfound

/-- The listings of two related scopes have the same names in the same order. -/
theorem names_scopeWith_eq
    {keep : Node → Bool}
    (hkeep : ∀ c d, R c d → keep c = keep d)
    (hshape : ∀ c, keep c = true → c.shape ≠ .parameter) :
    (h.scopeWith keep).map Handle.name? = (k.scopeWith keep).map Handle.name? := by
  simp only [Handle.scopeWith, hnode, hnode', List.map_map]
  refine hscope.map_filter_eq hkeep fun c d hcd hc => ?_
  exact sim.declaredName_eq hcd (hshape c hc)

end ScopeSimulation

namespace Handle

/-- A handle lists these entries: all of them as its statements, and those of a kind in each of its
other listings. -/
structure Lists (h : Handle) (entries : List Node) : Prop where
  statements : h.statements = entries.map found
  variableStatements :
    h.variableStatements = (entries.filter (·.shape == .variableStatement)).map found
  functions : ∀ withVariables,
    h.functions withVariables = (entries.filter (isFunctionEntry withVariables)).map found
  types : h.types = (entries.filter (·.shape == .typeAlias)).map found
  interfaces : h.interfaces = (entries.filter (·.shape == .interface)).map found
  classes : h.classes = (entries.filter (·.shape == .classDecl)).map found
  conditionals : h.conditionals = (entries.filter (·.shape == .conditional)).map found

theorem lists_scope
    {h : Handle}
    {n : Node}
    (hnode : h.node = some n) :
    h.Lists n.scope := by
  have hkept : ∀ keep, h.scopeWith keep = (n.scope.filter keep).map found := by
    intro keep
    rw [scopeWith, hnode]
  exact ⟨by rw [statements, hnode], hkept _, fun _ => hkept _, hkept _, hkept _, hkept _, hkept _⟩

/-- A name that is found at the top level is still found when a statement is added. -/
theorem isEmpty_apply_of_addsStatement
    {parse : Parser}
    {source longer : String}
    {root root' : Node}
    (hblank : Text.isBlank source = false)
    (hblank' : Text.isBlank longer = false)
    (hcopy : (parse source).copy source = .ok root)
    (hcopy' : (parse longer).copy longer = .ok root')
    (hroot : root.kind = "program")
    (hroot' : root'.kind = "program")
    (hlone : root.isLoneScope = false)
    (hadds : root.AddsStatement root')
    {step : Step}
    (hstep : step.looksInScope = true)
    (hfound : (step.apply (ofSource parse source)).isEmpty = false) :
    (step.apply (ofSource parse longer)).isEmpty = false := by
  have hnode := node_ofSource_of_copy hblank hcopy
  obtain ⟨d, hd, htakes⟩ := (Step.isEmpty_apply_eq_false_iff hstep hnode).mp hfound
  rw [Tree.scope_of_not_isLoneScope hroot hlone] at hd
  obtain ⟨s, hs, rfl⟩ := List.mem_map.mp hd
  obtain ⟨s', hs', hplaced⟩ := hadds.exists_displaced hs
  have sim := Tree.pointwise_displaced.simulation
  have htakes' : step.takes s'.unexported = true := by
    rw [← sim.scopeSimulation.takes_eq (sim.unexported hplaced) step, htakes]
  have hnode' := node_ofSource_of_copy hblank' hcopy'
  refine (Step.isEmpty_apply_eq_false_iff hstep hnode').mpr ⟨s'.unexported, ?_, htakes'⟩
  rw [Tree.scope_of_not_isLoneScope hroot' (hadds.isLoneScope_eq_false hs)]
  exact List.mem_map_of_mem hs'

/-- The scope of a source is the top level of its program: its own statements, each export replaced
by its declaration (`Tree.unexported_cases`), and nothing that is nested in one of them; and a name
that is found there is still found when a statement is added.  A program whose only statement is a
scope is the exception, its handle lists what that statement holds. -/
theorem scope_ofSource_is_topLevel
    (parse : Parser)
    (source : String)
    (root : Node)
    (hblank : Text.isBlank source = false)
    (hcopy : (parse source).copy source = .ok root)
    (hroot : root.kind = "program") :
    (root.isLoneScope = false →
      (ofSource parse source).Lists (root.statements.map Tree.unexported) ∧
        ∀ (longer : String) (root' : Node),
          Text.isBlank longer = false →
            (parse longer).copy longer = .ok root' →
              root'.kind = "program" →
                root.AddsStatement root' →
                  ∀ step : Step, step.looksInScope = true →
                    (step.apply (ofSource parse source)).isEmpty = false →
                      (step.apply (ofSource parse longer)).isEmpty = false) ∧
      ∀ s, root.statements = [s] → root.isLoneScope = true →
        (ofSource parse source).Lists (s.statements.map Tree.unexported) := by
  have hlists := lists_scope (node_ofSource_of_copy hblank hcopy)
  refine ⟨fun hlone => ⟨?_, ?_⟩, fun s hs hlone => ?_⟩
  · rwa [Tree.scope_of_not_isLoneScope hroot hlone] at hlists
  · intro longer root' hblank' hcopy' hroot' hadds step hstep hfound
    exact isEmpty_apply_of_addsStatement hblank hblank' hcopy hcopy' hroot hroot' hlone hadds
      hstep hfound
  · rwa [Tree.scope_of_isLoneScope hs hlone] at hlists

section Samples

/-- The declaration `let a;` as a parser sees it from `start` on. -/
def letSample (start : Nat) : ParseTree :=
  .node ⟨"lexical_declaration", none, true, false, ⟨start, start + 6⟩⟩
    [.node ⟨"let", some "kind", false, false, ⟨start, start + 3⟩⟩ [],
     .node ⟨"variable_declarator", none, true, false, ⟨start + 4, start + 5⟩⟩
      [.node ⟨"identifier", some "name", true, false, ⟨start + 4, start + 5⟩⟩ []],
     .node ⟨";", none, false, false, ⟨start + 5, start + 6⟩⟩ []]

/-- The block `{ let a; }` as a parser sees it at the start of a text. -/
def blockSample : ParseTree :=
  .node ⟨"statement_block", none, true, false, ⟨0, 10⟩⟩
    [.node ⟨"\x7b", none, false, false, ⟨0, 1⟩⟩ [],
     letSample 2,
     .node ⟨"\x7d", none, false, false, ⟨9, 10⟩⟩ []]

/-- The statement that consists of a name, as a parser sees it from `start` on. -/
def nameSample (start : Nat) : ParseTree :=
  .node ⟨"expression_statement", none, true, false, ⟨start, start + 1⟩⟩
    [.node ⟨"identifier", none, true, false, ⟨start, start + 1⟩⟩ []]

/-- A program of statements. -/
def programSample (stop : Nat) (statements : List ParseTree) : ParseTree :=
  .node ⟨"program", none, true, false, ⟨0, stop⟩⟩ statements

/-- A parser that knows four programs. -/
def topLevelParser : Parser := fun text =>
  if text = "let a;" then programSample 6 [letSample 0]
  else if text = "b let a;" then programSample 8 [nameSample 0, letSample 2]
  else if text = "\x7b let a; \x7d" then programSample 10 [blockSample]
  else programSample 12 [blockSample, nameSample 11]

/-- The root that is copied from what the parser makes of a text. -/
def rootSample (text : String) : Node := (topLevelParser text).excerpted text

theorem addsStatement_letSample :
    (rootSample "let a;").AddsStatement (rootSample "b let a;") := by
  have htexts :
      [⟨0, 6⟩, ⟨0, 3⟩, ⟨4, 5⟩, ⟨5, 6⟩].map (Span.slice "let a;") =
        [⟨2, 8⟩, ⟨2, 5⟩, ⟨6, 7⟩, ⟨7, 8⟩].map (Span.slice "b let a;") := by
    decide
  simp only [List.map_cons, List.map_nil, List.cons.injEq, and_true] at htexts
  obtain ⟨hwhole, hlet, hname, hend⟩ := htexts
  refine ⟨[], ((nameSample 0).excerpted "b let a;").unplaced,
    [((letSample 0).excerpted "let a;").unplaced], rfl, ?_⟩
  simp [rootSample, topLevelParser, programSample, nameSample, letSample, ParseTree.excerpted,
    Tree.map, Tree.mapAll, Mark.excerpt, Tree.statements, Tree.named, Tree.isComment, Tree.kind,
    Tree.unplaced, Excerpt.unplaced, hwhole, hlet, hname, hend]

theorem addsStatement_blockSample :
    (rootSample "\x7b let a; \x7d").AddsStatement (rootSample "\x7b let a; \x7d b") := by
  have htexts :
      [⟨0, 10⟩, ⟨0, 1⟩, ⟨2, 8⟩, ⟨2, 5⟩, ⟨6, 7⟩, ⟨7, 8⟩, ⟨9, 10⟩].map
          (Span.slice "\x7b let a; \x7d") =
        [⟨0, 10⟩, ⟨0, 1⟩, ⟨2, 8⟩, ⟨2, 5⟩, ⟨6, 7⟩, ⟨7, 8⟩, ⟨9, 10⟩].map
          (Span.slice "\x7b let a; \x7d b") := by
    decide
  simp only [List.map_cons, List.map_nil, List.cons.injEq, and_true] at htexts
  obtain ⟨hwhole, hopen, hstatement, hlet, hname, hend, hclose⟩ := htexts
  refine ⟨[(blockSample.excerpted "\x7b let a; \x7d").unplaced],
    ((nameSample 11).excerpted "\x7b let a; \x7d b").unplaced, [], rfl, ?_⟩
  simp [rootSample, topLevelParser, programSample, blockSample, nameSample, letSample,
    ParseTree.excerpted, Tree.map, Tree.mapAll, Mark.excerpt, Tree.statements, Tree.named,
    Tree.isComment, Tree.kind, Tree.unplaced, Excerpt.unplaced, hwhole, hopen, hstatement, hlet,
    hname, hend, hclose]

/-- The variable of `let a;` is found at the top level, and is still found when a statement is put
before it. -/
theorem scope_of_letSample :
    Text.isBlank "let a;" = false ∧
      (rootSample "let a;").isLoneScope = false ∧
      (ofSource topLevelParser "let a;").Lists
        ((rootSample "let a;").statements.map Tree.unexported) ∧
      (rootSample "let a;").AddsStatement (rootSample "b let a;") ∧
      ((Step.variableNamed "a").apply (ofSource topLevelParser "let a;")).isEmpty = false ∧
      ((Step.variableNamed "a").apply (ofSource topLevelParser "b let a;")).isEmpty = false := by
  have hblank : Text.isBlank "let a;" = false := by decide
  have hlone : (rootSample "let a;").isLoneScope = false := by decide
  have hfound :
      ((Step.variableNamed "a").apply (ofSource topLevelParser "let a;")).isEmpty = false := by
    decide
  obtain ⟨hlists, hadded⟩ :=
    (scope_ofSource_is_topLevel topLevelParser "let a;" (rootSample "let a;") hblank rfl rfl).1 hlone
  have hkept :=
    hadded "b let a;" (rootSample "b let a;") (by decide) rfl rfl addsStatement_letSample
      (.variableNamed "a") rfl hfound
  exact ⟨hblank, hlone, hlists, addsStatement_letSample, hfound, hkept⟩

/-- The handle of the lone block does not list the block but what it holds: the nested variable is
found, though no top-level statement declares one, and is lost when a statement is added. -/
theorem scope_of_blockSample :
    Text.isBlank "\x7b let a; \x7d" = false ∧
      (topLevelParser "\x7b let a; \x7d").copy "\x7b let a; \x7d" =
        .ok (rootSample "\x7b let a; \x7d") ∧
      (rootSample "\x7b let a; \x7d").kind = "program" ∧
      (ofSource topLevelParser "\x7b let a; \x7d").statements ≠
        ((rootSample "\x7b let a; \x7d").statements.map Tree.unexported).map found ∧
      ((Step.variableNamed "a").apply
        (ofSource topLevelParser "\x7b let a; \x7d")).isEmpty = false ∧
      (∀ d ∈ (rootSample "\x7b let a; \x7d").statements.map Tree.unexported,
        d.shape ≠ .variableStatement) ∧
      (rootSample "\x7b let a; \x7d").AddsStatement (rootSample "\x7b let a; \x7d b") ∧
      ((Step.variableNamed "a").apply
        (ofSource topLevelParser "\x7b let a; \x7d b")).isEmpty = true := by
  refine ⟨by decide, rfl, rfl, ?_, by decide, by decide, addsStatement_blockSample, by decide⟩
  intro hsame
  have hkinds := congrArg (List.map fun h => h.node.map Tree.kind) hsame
  revert hkinds
  decide

end Samples

end Handle
end SnippetRubric
