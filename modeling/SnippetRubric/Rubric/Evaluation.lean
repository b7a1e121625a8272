import SnippetRubric.Rubric.Basic

/-!
# Evaluating checks

A check is evaluated on a source by following its selection from the source's handle.  The walk
ends at the first step that finds nothing; a check that expects absence passes then, any other
fails.  Where the whole selection is found, the expectation decides.
-/

namespace SnippetRubric

/-- Why a check fails. -/
inductive Failure where
  | emptySource
  | notFound (step : Step)
  | present (shown : String)
  | disagrees (shown text : String)
  | otherType (shown text : String)
  | otherResult (shown text : String)
  | otherMember (name : String)
  | otherCount (wanted actual : Nat)
  | otherCall (shown callee : String)
  | notInteger (shown : String)
deriving DecidableEq, Repr

namespace Failure

/-- The wording of each reason. -/
def message : Failure → String
  | emptySource => "source is empty"
  | notFound step => s!"{step.describe} not found"
  | present shown => s!"found `{shown}`"
  | disagrees shown text => s!"`{shown}` does not match `{text}`"
  | otherType shown text => s!"annotation is `{shown}`, expected `{text}`"
  | otherResult shown text => s!"return annotation is `{shown}`, expected `{text}`"
  | otherMember name => s!"member '{name}' is missing or differs"
  | otherCount wanted actual => s!"expected {wanted} parameters, found {actual}"
  | otherCall shown callee => s!"value `{shown}` is not a call to `{callee}`"
  | notInteger shown => s!"value `{shown}` is not an integer literal"

end Failure

/-- What comes of a check. -/
inductive Outcome where
  | passed
  | failed (failure : Failure)
deriving DecidableEq, Repr

namespace Outcome

/-- Whether the check passed. -/
def isPassed : Outcome → Bool
  | passed => true
  | failed _ => false

/-- Passed under a condition, failed with a reason otherwise. -/
def require (condition : Bool) (failure : Failure) : Outcome :=
  if condition then passed else failed failure

end Outcome

/-- The handle that a selection leads to, empty handles included. -/
def resolve (parse : Parser) (source : String) (steps : List Step) : Handle :=
  steps.foldl Step.apply (Handle.ofSource parse source)

namespace Expectation

/-- What comes of an expectation where the selection finds nothing. -/
def onNothing (expectation : Expectation) (failure : Failure) : Outcome :=
  Outcome.require (expectation = .absent) failure

/-- What comes of an expectation on a place. -/
def judge (parse : Parser) (h : Handle) : Expectation → Outcome
  | present => .passed
  | absent => .failed (.present h.display)
  | agrees text => .require (h.agreesWithText parse text) (.disagrees h.display text)
  | declaredType text =>
      .require (h.hasDeclaredType parse text) (.otherType h.declaredType.display text)
  | resultType text =>
      .require (h.hasResultType parse text) (.otherResult h.resultType.display text)
  | members expected =>
      match expected.find? fun member => !h.hasMember parse member with
      | none => .passed
      | some member => .failed (.otherMember member.name)
  | parameterCount count =>
      .require (h.parameters.length == count) (.otherCount count h.parameters.length)
  | callTo callee => .require (h.isCallTo callee) (.otherCall h.value.display callee)
  | integer => .require h.isInteger (.notInteger h.value.display)

/-- Follows steps from a place and judges where they lead. -/
def follow (parse : Parser) (expectation : Expectation) (h : Handle) : List Step → Outcome
  | [] => expectation.judge parse h
  | step :: rest =>
      let next := step.apply h
      if next.isEmpty then expectation.onNothing (.notFound step)
      else follow parse expectation next rest

end Expectation

namespace Check

/-- Evaluates a check on a source. -/
def evaluate (parse : Parser) (source : String) (check : Check) : Outcome :=
  let start := Handle.ofSource parse source
  if start.isEmpty then check.expect.onNothing .emptySource
  else check.expect.follow parse start check.select

end Check
end SnippetRubric
