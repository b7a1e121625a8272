import SnippetRubric.Proofs.Handle.Declarators
import SnippetRubric.Proofs.Rubric.Resolution

/-!
# Checks that expect absence

A check that looks for a declaration and expects it to be absent passes where the lookup is empty.
On a program that does not nest too deeply this means that none of its top-level statements declares
what is looked for.  A program that nests too deeply is refused, its handle is empty, and such a
check passes on it whatever the program declares.

The main statement is `Check.no_declaration_of_absent_passed`.  The bound on the depth cannot be
left out: `absent_passed_of_deepSample` is a program that declares `x`, and on which the check that
expects `x` to be absent passes.
-/

namespace SnippetRubric

namespace ParseTree

/-- The top-level entries of a program: its named children that are not comments, each export
replaced by the declaration that it holds. -/
def topLevel (source : String) (t : ParseTree) : List Node :=
  (t.excerpted source).statements.map Tree.unexported

end ParseTree

namespace Step

/-- An entry is a declaration of the kind that a step looks for and introduces its name.  A variable
counts as a function when the step takes variables and a declarator binds the name to a function.

A name is the whole text of the `name` child: a variable statement that takes an object apart, as
`const { x } = o;` does, introduces its pattern and not the variables in it. -/
def IntroducedBy (d : Node) : Step → Prop
  | variableNamed name => d.IsVariableCalled name
  | functionNamed name withVariables =>
      d.IsFunctionCalled name ∧ (withVariables = false → d.shape ≠ .variableStatement)
  | typeNamed name => d.shape = .typeAlias ∧ d.childText? "name" = some name
  | interfaceNamed name => d.shape = .interface ∧ d.childText? "name" = some name
  | classNamed name => d.shape = .classDecl ∧ d.childText? "name" = some name
  | _ => False

end Step

namespace Tree

variable {d : Node} {name : String}

/-- What is neither a variable statement nor a parameter declares the text of its `name` child. -/
theorem declares_iff_childText?
    (hvariable : d.shape ≠ .variableStatement)
    (hparameter : d.shape ≠ .parameter) :
    d.declares name = true ↔ d.childText? "name" = some name := by
  have hname : d.declaredName? = d.childText? "name" := by
    unfold declaredName?
    split
    · contradiction
    · contradiction
    · rfl
  rw [declares, if_neg hvariable, hname, beq_iff_eq]

/-- What opens a scope is no declaration. -/
theorem not_introducedBy_of_opensScope
    (hopens : d.opensScope = true)
    (step : Step) :
    ¬ step.IntroducedBy d := by
  have hshape : d.shape = .program ∨ d.shape = .block ∨ d.shape = .classBody := by
    simpa [opensScope, or_assoc] using hopens
  rcases hshape with hshape | hshape | hshape <;>
    cases step <;> simp [Step.IntroducedBy, IsVariableCalled, IsFunctionCalled, hshape]

/-- The scope at the handle of a program holds its top-level entries, apart from a single one that
opens a scope of its own. -/
theorem mem_scope_singleStatement?
    {root : Node}
    (hroot : root.opensScope = true)
    (hd : d ∈ root.statements.map unexported) :
    d ∈ (root.singleStatement?.getD root).scope ∨ d.opensScope = true := by
  unfold singleStatement?
  split
  · rename_i s hstatements
    rw [hstatements] at hd
    obtain rfl : d = s.unexported := by simpa using hd
    cases hopens : s.opensScope with
    | true =>
        right
        have hself : s.unexported = s := by
          have hexport : s.shape ≠ .exported := by
            intro hexport
            simp [opensScope, hexport] at hopens
          exact unexported_of_ne hexport
        rw [hself, hopens]
    | false =>
        left
        simp [scope, hopens]
  · left
    simpa [scope, hroot] using hd

end Tree

namespace Handle

variable {h : Handle} {n : Node} {name : String}

/-- Where the entries of a shape are searched without success, none of them has the name. -/
theorem not_called_of_isEmpty_firstDeclaring
    {shape : Shape}
    (hvariable : shape ≠ .variableStatement)
    (hparameter : shape ≠ .parameter)
    (hnode : h.node = some n)
    (hempty : (firstDeclaring name (h.scopeWith (·.shape == shape))).isEmpty = true) :
    ∀ d ∈ n.scope, ¬ (d.shape = shape ∧ d.childText? "name" = some name) := by
  rintro d hd ⟨rfl, hname⟩
  have hnone :=
    (isEmpty_firstDeclaring_scopeWith_iff hnode name _).mp hempty d hd (beq_self_eq_true _)
  rw [(Tree.declares_iff_childText? hvariable hparameter).mpr hname] at hnone
  cases hnone

/-- Where the variables are searched without success, none of them has the name. -/
theorem not_isVariableCalled_of_isEmpty_findVariable
    (hnode : h.node = some n)
    (hempty : (h.findVariable name).isEmpty = true) :
    ∀ d ∈ n.scope, ¬ d.IsVariableCalled name := by
  intro d hd hcalled
  obtain ⟨hshape, hdeclares⟩ := Tree.isVariableCalled_iff_declares.mp hcalled
  have hnone := (isEmpty_firstDeclaring_scopeWith_iff hnode name _).mp hempty d hd hshape
  rw [hdeclares] at hnone
  cases hnone

/-- Where the functions are searched without success, none of those that are listed has the
name. -/
theorem not_isFunctionCalled_of_isEmpty_findFunction
    {withVariables : Bool}
    (hnode : h.node = some n)
    (hempty : (h.findFunction name withVariables).isEmpty = true) :
    ∀ d ∈ n.scope, d.IsFunctionCalled name →
      ¬ (withVariables = false → d.shape ≠ .variableStatement) := by
  intro d hd hcalled hlisted
  have hnone := (isEmpty_findFunction_iff hnode name withVariables).mp hempty d hd
  rcases hcalled with ⟨hshape, hname⟩ | ⟨hshape, declarator, hmem, hbinds⟩
  · have hentry : isFunctionEntry withVariables d = true := by
      rcases hshape with hshape | hshape <;> simp [isFunctionEntry, hshape]
    have htaken := hnone hentry
    rcases hshape with hshape | hshape <;>
      simp [asFunction?, Tree.declaredName?, hshape, hname] at htaken
  · have hvariables : withVariables = true := by
      by_contra hfalse
      exact hlisted (eq_false_of_ne_true hfalse) hshape
    subst hvariables
    have hentry := isFunctionEntry_true_iff.mpr (Or.inr ⟨hshape, declarator, hmem, hbinds.2⟩)
    have htaken : d.functionDeclarator? name = none := by
      simpa [asFunction?, hshape] using hnone hentry
    have hsome := Tree.isSome_functionDeclarator?_of_bindsToFunction hshape hmem hbinds
    rw [htaken] at hsome
    cases hsome

/-- Where a step finds nothing, no entry of the scope is what it looks for. -/
theorem not_introducedBy_of_isEmpty_apply
    (hnode : h.node = some n)
    {step : Step}
    (hempty : (step.apply h).isEmpty = true) :
    ∀ d ∈ n.scope, ¬ step.IntroducedBy d := by
  cases step with
  | variableNamed name =>
      exact not_isVariableCalled_of_isEmpty_findVariable hnode hempty
  | functionNamed name withVariables =>
      rintro d hd ⟨hcalled, hlisted⟩
      exact not_isFunctionCalled_of_isEmpty_findFunction hnode hempty d hd hcalled hlisted
  | typeNamed name =>
      exact not_called_of_isEmpty_firstDeclaring (by decide) (by decide) hnode hempty
  | interfaceNamed name =>
      exact not_called_of_isEmpty_firstDeclaring (by decide) (by decide) hnode hempty
  | classNamed name =>
      exact not_called_of_isEmpty_firstDeclaring (by decide) (by decide) hnode hempty
  | _ =>
      exact fun _ _ => not_false

end Handle

namespace Check

variable {parse : Parser} {source : String} {check : Check}

/-- On a source that nests too deeply every check that expects absence passes. -/
theorem absent_passed_of_tooDeep
    (hblank : Text.isBlank source = false)
    (hexpect : check.expect = .absent)
    (hheight : maxDepth < (parse source).height) :
    check.evaluate parse source = .passed := by
  rw [check.evaluate_of_isEmpty_ofSource parse source
    (Handle.isEmpty_ofSource_of_tooDeep hblank hheight), hexpect, Expectation.onNothing_absent]

/-- A check that looks for one declaration and expects it to be absent passes only where no
top-level entry declares it, on every program that does not nest too deeply; on the others it
always passes. -/
theorem no_declaration_of_absent_passed
    (parse : Parser)
    (source : String)
    (check : Check)
    (step : Step)
    (hblank : Text.isBlank source = false)
    (hroot : (parse source).label.kind = "program")
    (hselect : check.select = [step])
    (hexpect : check.expect = .absent) :
    ((parse source).height ≤ maxDepth → check.evaluate parse source = .passed →
      ∀ d ∈ (parse source).topLevel source, ¬ step.IntroducedBy d) ∧
    (maxDepth < (parse source).height → check.evaluate parse source = .passed) := by
  refine ⟨fun hheight hpassed d hd => ?_, absent_passed_of_tooDeep hblank hexpect⟩
  have hempty : (step.apply (Handle.ofSource parse source)).isEmpty = true := by
    have hcheck : { check with expect := .absent } = check := by
      rw [← hexpect]
    have := (check.evaluate_absent_iff parse source).mp (by rw [hcheck]; exact hpassed)
    simpa [resolve, hselect] using this
  have hopens : ((parse source).excerpted source).opensScope = true := by
    have hkind : ((parse source).excerpted source).kind = "program" := by
      simpa [ParseTree.excerpted, Tree.kind, Mark.excerpt] using hroot
    have hshape : ((parse source).excerpted source).shape = .program := by
      rw [Tree.shape, hkind]
      rfl
    simp [Tree.opensScope, hshape]
  rcases Tree.mem_scope_singleStatement? hopens hd with hscope | hopened
  · have hnode := Handle.node_ofSource hblank hheight
    exact Handle.not_introducedBy_of_isEmpty_apply hnode hempty d hscope
  · exact Tree.not_introducedBy_of_opensScope hopened step

/-- In `let x` no variable `y` is declared at the top level. -/
theorem no_declaration_in_declarationSample :
    (sampleCheck [.variableNamed "y"] .absent).evaluate (fun _ => declarationSample) "let x" =
        .passed ∧
      ∀ d ∈ declarationSample.topLevel "let x", ¬ (Step.variableNamed "y").IntroducedBy d := by
  have hpassed :
      (sampleCheck [.variableNamed "y"] .absent).evaluate (fun _ => declarationSample) "let x" =
        .passed := by
    decide
  refine ⟨hpassed, ?_⟩
  exact (no_declaration_of_absent_passed (fun _ => declarationSample) "let x"
    (sampleCheck [.variableNamed "y"] .absent) (.variableNamed "y") (by decide) rfl rfl rfl).1
      (by decide) hpassed

end Check

section TooDeep

/-- The number `1` in `depth` pairs of square brackets, as a parser sees it from `start` on. -/
def bracketSample (field : Option String) : (depth start : Nat) → ParseTree
  | 0, start => .node ⟨"number", field, true, false, ⟨start, start + 1⟩⟩ []
  | depth + 1, start =>
      .node ⟨"array", field, true, false, ⟨start, start + 2 * depth + 3⟩⟩
        [.node ⟨"[", none, false, false, ⟨start, start + 1⟩⟩ [],
         bracketSample none depth (start + 1),
         .node ⟨"]", none, false, false, ⟨start + 2 * depth + 2, start + 2 * depth + 3⟩⟩ []]

/-- Each pair of brackets adds a level. -/
theorem height_bracketSample
    (field : Option String)
    (depth start : Nat) :
    (bracketSample field depth start).height = depth := by
  induction depth generalizing field start with
  | zero =>
      simp [bracketSample, Tree.heightAll]
  | succ depth ih =>
      simp [bracketSample, Tree.heightAll, ih]

/-- The source `let x = [[…1…]];` with `depth` pairs of brackets. -/
def deepSource (depth : Nat) : String :=
  "let " ++ ("x" ++ (" = " ++ String.ofList (List.replicate depth '[') ++ "1" ++
    String.ofList (List.replicate depth ']') ++ ";"))

/-- The declaration `let x = [[…1…]];` as a parser sees it. -/
def deepDeclaration (depth : Nat) : ParseTree :=
  .node ⟨"lexical_declaration", none, true, false, ⟨0, 2 * depth + 10⟩⟩
    [.node ⟨"let", some "kind", false, false, ⟨0, 3⟩⟩ [],
     .node ⟨"variable_declarator", none, true, false, ⟨4, 2 * depth + 9⟩⟩
      [.node ⟨"identifier", some "name", true, false, ⟨4, 5⟩⟩ [],
       .node ⟨"=", none, false, false, ⟨6, 7⟩⟩ [],
       bracketSample (some "value") depth 8],
     .node ⟨";", none, false, false, ⟨2 * depth + 9, 2 * depth + 10⟩⟩ []]

/-- The program that consists of this declaration. -/
def deepSample (depth : Nat) : ParseTree :=
  .node ⟨"program", none, true, false, ⟨0, 2 * depth + 10⟩⟩ [deepDeclaration depth]

/-- Whatever the depth, the sample declares `x` at its top level. -/
theorem introducedBy_deepSample
    (depth : Nat) :
    ∃ d ∈ (deepSample depth).topLevel (deepSource depth),
      (Step.variableNamed "x").IntroducedBy d := by
  have hname : Span.slice (deepSource depth) ⟨4, 5⟩ = "x" :=
    Span.slice_append "let " "x" _
  have hnames :
      ((deepDeclaration depth).excerpted (deepSource depth)).declaratorNames =
        [Span.slice (deepSource depth) ⟨4, 5⟩] := by
    simp [deepDeclaration, ParseTree.excerpted, Tree.map, Tree.mapAll, Mark.excerpt,
      Tree.declaratorNames, Tree.declarators, Tree.childrenOf, Tree.shape, Tree.kind,
      Shape.ofKind, Shape.kinds, List.lookup_cons, Tree.childText?, Tree.child?, Tree.field,
      Tree.text]
  have hshape :
      ((deepDeclaration depth).excerpted (deepSource depth)).shape = .variableStatement := by
    rfl
  have hdeclares :
      ((deepDeclaration depth).excerpted (deepSource depth)).declares "x" = true := by
    rw [Tree.declares, if_pos hshape, hnames, hname]
    rfl
  refine ⟨(deepDeclaration depth).excerpted (deepSource depth), List.mem_singleton.mpr rfl, ?_⟩
  exact Tree.isVariableCalled_iff_declares.mpr ⟨by rw [hshape]; rfl, hdeclares⟩

theorem height_deepSample
    (depth : Nat) :
    (deepSample depth).height = depth + 3 := by
  simp [deepSample, deepDeclaration, Tree.heightAll, height_bracketSample]

theorem isBlank_deepSource
    (depth : Nat) :
    Text.isBlank (deepSource depth) = false := by
  simp [Text.isBlank, deepSource, Text.isWhiteSpace, Text.whiteSpaceRanges]

/-- The program declares `x` at its top level, and the check that expects `x` to be absent passes
on it: it nests more than `maxDepth` levels. -/
theorem absent_passed_of_deepSample :
    Text.isBlank (deepSource 1100) = false ∧
      (deepSample 1100).label.kind = "program" ∧
      (Check.sampleCheck [.variableNamed "x"] .absent).evaluate (fun _ => deepSample 1100)
        (deepSource 1100) = .passed ∧
      ∃ d ∈ (deepSample 1100).topLevel (deepSource 1100),
        (Step.variableNamed "x").IntroducedBy d := by
  have hheight : maxDepth < (deepSample 1100).height := by
    rw [height_deepSample]
    decide
  exact ⟨isBlank_deepSource 1100, rfl,
    Check.absent_passed_of_tooDeep (isBlank_deepSource 1100) rfl hheight,
    introducedBy_deepSample 1100⟩

end TooDeep
end SnippetRubric
