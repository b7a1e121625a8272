import Mathlib.Logic.Basic
import Mathlib.Tactic.ByContra
import SnippetRubric.Proofs.Handle.Grounded
import SnippetRubric.Rubric.Evaluation

/-!
# Resolution and evaluation

The walk of a check ends at the first step that finds nothing.  Resolution takes all steps, from
empty handles as well.  Since an empty handle stays empty, the two agree: a check is judged on the
place that its selection resolves to, and where there is none it is answered at the first step that
is lost (`Expectation.follow_of_found`, `Expectation.follow_of_lost`).

The main statement is `evaluate_resolves`.
-/

namespace SnippetRubric

section Resolution

variable (parse : Parser) (source : String)

theorem resolve_append
    (steps more : List Step) :
    resolve parse source (steps ++ more) =
      more.foldl Step.apply (resolve parse source steps) := by
  simp [resolve]

theorem grounded_resolve
    (steps : List Step) :
    (resolve parse source steps).Grounded := by
  cases List.eq_nil_or_concat steps with
  | inl hnil =>
      subst hnil
      exact Handle.grounded_ofNode? _ _
  | inr hconcat =>
      obtain ⟨before, last, rfl⟩ := hconcat
      rw [List.concat_eq_append, resolve_append]
      exact last.grounded_apply _

/-- A selection that is lost stays lost, whatever steps are added. -/
theorem isEmpty_resolve_append
    {steps : List Step}
    (more : List Step)
    (hempty : (resolve parse source steps).isEmpty = true) :
    (resolve parse source (steps ++ more)).isEmpty = true := by
  rw [resolve_append]
  exact isEmpty_foldl_apply more (grounded_resolve parse source steps) hempty

/-- Where a selection leads somewhere, so does every initial part of it. -/
theorem isEmpty_resolve_of_isPrefix
    {initial steps : List Step}
    (hinitial : initial <+: steps)
    (hfound : (resolve parse source steps).isEmpty = false) :
    (resolve parse source initial).isEmpty = false := by
  obtain ⟨more, rfl⟩ := hinitial
  by_contra hlost
  have hempty := isEmpty_resolve_append parse source more (eq_true_of_ne_false hlost)
  rw [hfound] at hempty
  cases hempty

end Resolution

namespace Expectation

variable (parse : Parser) (expectation : Expectation)

/-- A walk that finds all its steps ends with the judgement on the last place. -/
theorem follow_of_found
    (steps : List Step)
    {h : Handle}
    (hfound : (steps.foldl Step.apply h).isEmpty = false) :
    expectation.follow parse h steps =
      expectation.judge parse (steps.foldl Step.apply h) := by
  induction steps generalizing h with
  | nil =>
      rfl
  | cons step rest ih =>
      have hnext : (step.apply h).isEmpty = false := by
        by_contra hlost
        have hempty :=
          isEmpty_foldl_apply rest (step.grounded_apply h) (eq_true_of_ne_false hlost)
        rw [List.foldl_cons, hempty] at hfound
        cases hfound
      rw [follow, hnext]
      exact ih hfound

/-- A walk that loses its way ends at the first step that finds nothing. -/
theorem follow_of_lost
    (steps : List Step)
    {h : Handle}
    (hstart : h.isEmpty = false)
    (hlost : (steps.foldl Step.apply h).isEmpty = true) :
    ∃ before step after,
      steps = before ++ step :: after ∧
        (before.foldl Step.apply h).isEmpty = false ∧
        ((before ++ [step]).foldl Step.apply h).isEmpty = true ∧
        expectation.follow parse h steps = expectation.onNothing (.notFound step) := by
  induction steps generalizing h with
  | nil =>
      rw [List.foldl_nil, hstart] at hlost
      cases hlost
  | cons step rest ih =>
      cases hnext : (step.apply h).isEmpty with
      | true =>
          refine ⟨[], step, rest, rfl, hstart, hnext, ?_⟩
          rw [follow, hnext]
          rfl
      | false =>
          obtain ⟨before, missed, after, rfl, hbefore, hmissed, hfollow⟩ := ih hnext hlost
          refine ⟨step :: before, missed, after, rfl, hbefore, hmissed, ?_⟩
          rw [follow, hnext]
          exact hfollow

theorem onNothing_absent
    (failure : Failure) :
    absent.onNothing failure = .passed := by
  simp [onNothing, Outcome.require]

theorem onNothing_of_ne_absent
    {expectation : Expectation}
    (hexpect : expectation ≠ .absent)
    (failure : Failure) :
    expectation.onNothing failure = .failed failure := by
  simp [onNothing, Outcome.require, hexpect]

end Expectation

namespace Check

variable (parse : Parser) (source : String) (check : Check)

/-- A check whose selection leads somewhere is judged there. -/
theorem evaluate_of_found
    (hfound : (resolve parse source check.select).isEmpty = false) :
    check.evaluate parse source =
      check.expect.judge parse (resolve parse source check.select) := by
  have hstart : (Handle.ofSource parse source).isEmpty = false :=
    isEmpty_resolve_of_isPrefix parse source List.nil_prefix hfound
  rw [evaluate, hstart]
  exact check.expect.follow_of_found parse check.select hfound

theorem evaluate_of_isEmpty_ofSource
    (hstart : (Handle.ofSource parse source).isEmpty = true) :
    check.evaluate parse source = check.expect.onNothing .emptySource := by
  rw [evaluate, hstart]
  rfl

/-- A check whose selection is lost on the way is answered at the first step that is lost. -/
theorem evaluate_of_lost
    (hstart : (Handle.ofSource parse source).isEmpty = false)
    (hlost : (resolve parse source check.select).isEmpty = true) :
    ∃ before step after,
      check.select = before ++ step :: after ∧
        (resolve parse source before).isEmpty = false ∧
        (resolve parse source (before ++ [step])).isEmpty = true ∧
        check.evaluate parse source = check.expect.onNothing (.notFound step) := by
  obtain ⟨before, step, after, hselect, hbefore, hstep, hfollow⟩ :=
    check.expect.follow_of_lost parse check.select hstart hlost
  refine ⟨before, step, after, hselect, hbefore, hstep, ?_⟩
  rw [evaluate, hstart]
  exact hfollow

/-- Where the selection finds nothing, the check is answered by what is expected of nothing. -/
theorem evaluate_of_isEmpty_resolve
    (hlost : (resolve parse source check.select).isEmpty = true) :
    ∃ failure, check.evaluate parse source = check.expect.onNothing failure := by
  cases hstart : (Handle.ofSource parse source).isEmpty with
  | true =>
      exact ⟨_, check.evaluate_of_isEmpty_ofSource parse source hstart⟩
  | false =>
      obtain ⟨_, step, _, _, _, _, heval⟩ := check.evaluate_of_lost parse source hstart hlost
      exact ⟨_, heval⟩

/-- A check that expects a place passes when its selection leads to one. -/
theorem evaluate_present_iff :
    { check with expect := .present }.evaluate parse source = .passed ↔
      (resolve parse source check.select).isEmpty = false := by
  cases hresolve : (resolve parse source check.select).isEmpty with
  | true =>
      obtain ⟨failure, heval⟩ :=
        evaluate_of_isEmpty_resolve parse source { check with expect := .present } hresolve
      rw [heval, Expectation.onNothing_of_ne_absent (by simp)]
      simp
  | false =>
      rw [evaluate_of_found parse source { check with expect := .present } hresolve]
      simp [Expectation.judge]

/-- A check that expects absence passes when its selection leads nowhere. -/
theorem evaluate_absent_iff :
    { check with expect := .absent }.evaluate parse source = .passed ↔
      (resolve parse source check.select).isEmpty = true := by
  cases hresolve : (resolve parse source check.select).isEmpty with
  | true =>
      obtain ⟨failure, heval⟩ :=
        evaluate_of_isEmpty_resolve parse source { check with expect := .absent } hresolve
      rw [heval, Expectation.onNothing_absent]
      simp
  | false =>
      rw [evaluate_of_found parse source { check with expect := .absent } hresolve]
      simp [Expectation.judge]

/-- A check passes on nothing only if it expects absence. -/
theorem isEmpty_resolve_of_passed
    (hexpect : check.expect ≠ .absent)
    (hpassed : check.evaluate parse source = .passed) :
    (resolve parse source check.select).isEmpty = false := by
  by_contra hlost
  obtain ⟨failure, heval⟩ :=
    check.evaluate_of_isEmpty_resolve parse source (eq_true_of_ne_false hlost)
  rw [heval, Expectation.onNothing_of_ne_absent hexpect] at hpassed
  cases hpassed

/-- Where a selection is lost, a check that does not expect absence fails and says where: at the
source, or at the first step that finds nothing. -/
theorem evaluate_failed_of_isEmpty_resolve
    (hexpect : check.expect ≠ .absent)
    (hlost : (resolve parse source check.select).isEmpty = true) :
    ((Handle.ofSource parse source).isEmpty = true →
      check.evaluate parse source = .failed .emptySource) ∧
    ((Handle.ofSource parse source).isEmpty = false →
      ∃ before step after,
        check.select = before ++ step :: after ∧
          (∀ initial, initial <+: before → (resolve parse source initial).isEmpty = false) ∧
          (resolve parse source (before ++ [step])).isEmpty = true ∧
          check.evaluate parse source = .failed (.notFound step)) := by
  constructor
  · intro hstart
    rw [check.evaluate_of_isEmpty_ofSource parse source hstart,
      Expectation.onNothing_of_ne_absent hexpect]
  · intro hstart
    obtain ⟨before, step, after, hselect, hbefore, hstep, heval⟩ :=
      check.evaluate_of_lost parse source hstart hlost
    refine ⟨before, step, after, hselect, ?_, hstep, ?_⟩
    · intro initial hinitial
      exact isEmpty_resolve_of_isPrefix parse source hinitial hbefore
    · rw [heval, Expectation.onNothing_of_ne_absent hexpect]

/-- Evaluating a check is resolving its selection and then judging the place:

* presence and absence are the two answers to whether the selection resolves to a place;
* any check that passes without expecting absence has resolved all initial parts of its selection;
* absence is kept by further steps;
* a lost selection is reported at the source or at the first step that finds nothing;
* the outcome of a selection that is not lost is the judgement on the place that it resolves to. -/
theorem evaluate_resolves :
    (({ check with expect := .present }.evaluate parse source = .passed ↔
        (resolve parse source check.select).isEmpty = false) ∧
      ({ check with expect := .absent }.evaluate parse source = .passed ↔
        (resolve parse source check.select).isEmpty = true) ∧
      Xor ({ check with expect := .present }.evaluate parse source = .passed)
        ({ check with expect := .absent }.evaluate parse source = .passed)) ∧
    (check.expect ≠ .absent → check.evaluate parse source = .passed →
      ∀ initial, initial <+: check.select →
        (resolve parse source initial).isEmpty = false) ∧
    ({ check with expect := .absent }.evaluate parse source = .passed →
      ∀ more, { check with select := check.select ++ more, expect := .absent }.evaluate
        parse source = .passed) ∧
    (check.expect ≠ .absent → (resolve parse source check.select).isEmpty = true →
      ((Handle.ofSource parse source).isEmpty = true →
        check.evaluate parse source = .failed .emptySource ∧
          Failure.emptySource.message = "source is empty") ∧
      ((Handle.ofSource parse source).isEmpty = false →
        ∃ before step after,
          check.select = before ++ step :: after ∧
            (∀ initial, initial <+: before →
              (resolve parse source initial).isEmpty = false) ∧
            (resolve parse source (before ++ [step])).isEmpty = true ∧
            check.evaluate parse source = .failed (.notFound step) ∧
            (Failure.notFound step).message = step.describe ++ " not found")) ∧
    ((resolve parse source check.select).isEmpty = false →
      check.evaluate parse source =
        check.expect.judge parse (resolve parse source check.select)) := by
  refine ⟨⟨check.evaluate_present_iff parse source, check.evaluate_absent_iff parse source, ?_⟩,
    ?_, ?_, ?_, check.evaluate_of_found parse source⟩
  · rw [check.evaluate_present_iff parse source, check.evaluate_absent_iff parse source]
    cases (resolve parse source check.select).isEmpty with
    | true =>
        exact Or.inr ⟨rfl, by simp⟩
    | false =>
        exact Or.inl ⟨rfl, by simp⟩
  · intro hexpect hpassed initial hinitial
    have hfound := check.isEmpty_resolve_of_passed parse source hexpect hpassed
    exact isEmpty_resolve_of_isPrefix parse source hinitial hfound
  · intro hpassed more
    have hlost := (check.evaluate_absent_iff parse source).mp hpassed
    exact (evaluate_absent_iff parse source { check with select := check.select ++ more }).mpr
      (isEmpty_resolve_append parse source more hlost)
  · intro hexpect hlost
    obtain ⟨hsource, hsteps⟩ :=
      check.evaluate_failed_of_isEmpty_resolve parse source hexpect hlost
    refine ⟨fun hstart => ⟨hsource hstart, rfl⟩, fun hstart => ?_⟩
    obtain ⟨before, step, after, hselect, hbefore, hstep, heval⟩ := hsteps hstart
    exact ⟨before, step, after, hselect, hbefore, hstep, heval, rfl⟩

/-- The program `let x`, with one declarator and no initializer. -/
def declarationSample : ParseTree :=
  .node ⟨"program", none, true, false, ⟨0, 5⟩⟩
    [.node ⟨"lexical_declaration", none, true, false, ⟨0, 5⟩⟩
      [.node ⟨"let", some "kind", false, false, ⟨0, 3⟩⟩ [],
       .node ⟨"variable_declarator", none, true, false, ⟨4, 5⟩⟩
        [.node ⟨"identifier", some "name", true, false, ⟨4, 5⟩⟩ []]]]

/-- A check on the sample. -/
def sampleCheck (select : List Step) (expect : Expectation) : Check :=
  ⟨"sample", "index.ts", none, select, expect⟩

/-- On `let x` the variable is found and judged, another one stays lost, and the step that asks for
a body is reported. -/
theorem evaluate_resolves_declarationSample :
    (∀ initial, initial <+: [Step.variableNamed "x"] →
      (resolve (fun _ => declarationSample) "let x" initial).isEmpty = false) ∧
    (∀ more, (sampleCheck ([.variableNamed "y"] ++ more) .absent).evaluate
      (fun _ => declarationSample) "let x" = .passed) ∧
    (∃ before step after,
      [Step.variableNamed "x", .body, .declaredType] = before ++ step :: after ∧
        (∀ initial, initial <+: before →
          (resolve (fun _ => declarationSample) "let x" initial).isEmpty = false) ∧
        (resolve (fun _ => declarationSample) "let x" (before ++ [step])).isEmpty = true ∧
        (sampleCheck [.variableNamed "x", .body, .declaredType] .integer).evaluate
          (fun _ => declarationSample) "let x" = .failed (.notFound step) ∧
        (Failure.notFound step).message = step.describe ++ " not found") ∧
    (sampleCheck [.variableNamed "x"] .integer).evaluate (fun _ => declarationSample) "let x" =
      Expectation.integer.judge (fun _ => declarationSample)
        (resolve (fun _ => declarationSample) "let x" [.variableNamed "x"]) := by
  refine ⟨?_, ?_, ?_, ?_⟩
  · exact (evaluate_resolves (fun _ => declarationSample) "let x"
      (sampleCheck [.variableNamed "x"] .present)).2.1 (by decide) (by decide)
  · exact (evaluate_resolves (fun _ => declarationSample) "let x"
      (sampleCheck [.variableNamed "y"] .absent)).2.2.1 (by decide)
  · exact ((evaluate_resolves (fun _ => declarationSample) "let x"
      (sampleCheck [.variableNamed "x", .body, .declaredType] .integer)).2.2.2.1
        (by decide) (by decide)).2 (by decide)
  · exact (evaluate_resolves (fun _ => declarationSample) "let x"
      (sampleCheck [.variableNamed "x"] .integer)).2.2.2.2 (by decide)

end Check
end SnippetRubric
