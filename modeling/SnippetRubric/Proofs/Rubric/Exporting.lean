import SnippetRubric.Proofs.Handle.Exports

/-!
# Verdicts do not depend on exports

The first step of a selection looks for something in the scope of a source, as a rule.  It finds the
same handle whether the declarations of the source are exported or not, and from there on nothing
tells the two sources apart: the steps that follow find the same, and an expectation that is not met
is not met for the same reason.

The main statement is `Check.exporting_keeps_answers_and_outcomes`.
-/

namespace SnippetRubric
namespace Check

/-- Where the first step of a selection finds the same handle, up to its place, in two sources that
can be asked, a check has the same outcome on both. -/
theorem evaluate_eq_of_relocated
    {parse : Parser}
    {source source' : String}
    {check : Check}
    {step : Step}
    {rest : List Step}
    (hselect : check.select = step :: rest)
    (hasked : (Handle.ofSource parse source).isEmpty = false)
    (hasked' : (Handle.ofSource parse source').isEmpty = false)
    (hfirst : (step.apply (Handle.ofSource parse source)).Relocated
      (step.apply (Handle.ofSource parse source'))) :
    check.evaluate parse source = check.evaluate parse source' := by
  have hrel := hfirst.handleRel
  simp only [evaluate, hselect, hasked, hasked', Expectation.follow, hrel.isEmpty_eq]
  rw [Tree.simulation_relocated.follow_eq Tree.Relocated.text_eq hrel]

/-- Exporting declarations of a program changes neither the answers of the queries that read a scope
nor the outcome of a check that begins with a look into the scope. -/
theorem exporting_keeps_answers_and_outcomes
    (parse : Parser)
    (source source' : String)
    (root root' : Node)
    (hblank : Text.isBlank source = false)
    (hblank' : Text.isBlank source' = false)
    (hcopy : (parse source).copy source = .ok root)
    (hcopy' : (parse source').copy source' = .ok root')
    (hexports : root.ExportsDeclarations root') :
    (∀ query : Query, query.readsScope = true →
      List.Forall₂ Handle.Relocated (query.answers (Handle.ofSource parse source))
        (query.answers (Handle.ofSource parse source'))) ∧
    ∀ (check : Check) (step : Step) (rest : List Step),
      check.select = step :: rest →
        step.readsScope = true →
          check.evaluate parse source = check.evaluate parse source' := by
  have hnode := Handle.node_ofSource_of_copy hblank hcopy
  have hnode' := Handle.node_ofSource_of_copy hblank' hcopy'
  have hscope := hexports.scope
  constructor
  · intro query hquery
    exact Handle.relocated_answers hnode hnode' hscope hquery
  · intro check step rest hselect hstep
    have hfirst := Handle.relocated_apply hnode hnode' hscope hstep
    exact evaluate_eq_of_relocated hselect (by simp [Handle.isEmpty, hnode])
      (by simp [Handle.isEmpty, hnode']) hfirst

section Samples

open Handle (letSample programSample)

/-- The statement `export let a;` as a parser sees it at the start of a text. -/
def exportedLetSample : ParseTree :=
  .node ⟨"export_statement", none, true, false, ⟨0, 13⟩⟩
    [.node ⟨"export", none, false, false, ⟨0, 6⟩⟩ [],
     .node { (letSample 7).label with field := some "declaration" } (letSample 7).children]

/-- A parser that knows two programs, of one statement each. -/
def exportParser : Parser := fun text =>
  if text = "let a;" then programSample 6 [letSample 0] else programSample 13 [exportedLetSample]

theorem exportsDeclarations_letSample :
    ((exportParser "let a;").excerpted "let a;").ExportsDeclarations
      ((exportParser "export let a;").excerpted "export let a;") := by
  have htexts :
      [⟨0, 6⟩, ⟨0, 3⟩, ⟨4, 5⟩, ⟨5, 6⟩].map (Span.slice "let a;") =
        [⟨7, 13⟩, ⟨7, 10⟩, ⟨11, 12⟩, ⟨12, 13⟩].map (Span.slice "export let a;") := by
    decide
  simp only [List.map_cons, List.map_nil, List.cons.injEq, and_true] at htexts
  obtain ⟨hwhole, hlet, hname, hend⟩ := htexts
  refine ⟨rfl, rfl, .cons (Or.inr ⟨by decide, by decide, by decide, _, rfl, ?_⟩) .nil⟩
  simp [letSample, Tree.map, Tree.mapAll, Mark.excerpt, Tree.Relocated, Tree.Displaced,
    Tree.inField, Tree.field, Tree.unplaced, Excerpt.unplaced, hwhole, hlet, hname, hend]

/-- The handles are on a declaration and on an export statement.  The variable is found in both
sources, and a check that wants none fails on both with the text of the declaration. -/
theorem exporting_keeps_outcome_of_letSample :
    (Handle.ofSource exportParser "let a;").node.map Tree.shape = some .variableStatement ∧
      (Handle.ofSource exportParser "export let a;").node.map Tree.shape = some .exported ∧
      List.Forall₂ Handle.Relocated (Handle.ofSource exportParser "let a;").variableStatements
        (Handle.ofSource exportParser "export let a;").variableStatements ∧
      (sampleCheck [.variableNamed "a"] .absent).evaluate exportParser "let a;" =
        .failed (.present "let a;") ∧
      (sampleCheck [.variableNamed "a"] .absent).evaluate exportParser "export let a;" =
        .failed (.present "let a;") := by
  obtain ⟨hanswers, houtcomes⟩ :=
    exporting_keeps_answers_and_outcomes exportParser "let a;" "export let a;" _ _ (by decide)
      (by decide) rfl rfl exportsDeclarations_letSample
  have hfailed :
      (sampleCheck [.variableNamed "a"] .absent).evaluate exportParser "let a;" =
        .failed (.present "let a;") := by
    decide
  refine ⟨by decide, by decide, hanswers .variableStatements rfl, hfailed, ?_⟩
  rw [← houtcomes _ (.variableNamed "a") [] rfl rfl, hfailed]

end Samples

end Check
end SnippetRubric
