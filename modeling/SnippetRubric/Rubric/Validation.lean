import SnippetRubric.Files.Path
import SnippetRubric.Rubric.Basic

/-!
# Valid rubrics

`Rubric.issues` lists everything that is wrong with a rubric: check by check, and for each check in
the order identifier, file, steps, expectation.  A rubric is valid when the list is empty.
-/

namespace SnippetRubric

/-- One problem of a rubric. -/
inductive Issue where
  | noChecks
  | missingId
  | missingField (id field : String)
  | duplicateId (id : String)
  | fileOutsideRoot (id file : String)
deriving DecidableEq, Repr

namespace Issue

/-- The wording of each problem. -/
def message : Issue → String
  | noChecks => "rubric contains no checks"
  | missingId => "check missing required field 'id'"
  | missingField id field => s!"check '{id}' missing required field '{field}'"
  | duplicateId id => s!"check id '{id}' is used more than once"
  | fileOutsideRoot id file => s!"check '{id}' file '{file}' must be relative to the rubric root"

end Issue

namespace Expectation

/-- The fields of an expectation that must be filled in and are not. -/
def missingFields : Expectation → List String
  | agrees text | declaredType text | resultType text =>
      if Text.isBlank text then ["expect.text"] else []
  | members expected =>
      (if expected.isEmpty then ["expect.props"] else []) ++
        (if expected.any fun member => Text.isBlank member.name then ["expect.props.name"] else [])
  | callTo callee => if Text.isBlank callee then ["expect.callee"] else []
  | present | absent | parameterCount _ | integer => []

end Expectation

namespace Check

variable (check : Check)

/-- The problem of a check's identifier, given those of the checks before it. -/
def idIssues (earlier : List String) : List Issue :=
  if Text.isBlank check.id then [.missingId]
  else if check.id ∈ earlier then [.duplicateId check.id]
  else []

/-- The problem of a check's file. -/
def fileIssues : List Issue :=
  if Text.isBlank check.file then [.missingField check.id "file"]
  else if Path.staysInside check.file then []
  else [.fileOutsideRoot check.id check.file]

/-- Whether a step looks for a blank name. -/
def isNameless (step : Step) : Bool :=
  step.name?.any Text.isBlank

/-- One problem for every step that looks for a blank name. -/
def stepIssues : List Issue :=
  (check.select.filter isNameless).map fun _ => .missingField check.id "select.name"

/-- The problems of a check's expectation. -/
def expectIssues : List Issue :=
  check.expect.missingFields.map (.missingField check.id)

/-- All problems of a check, given the identifiers of the checks before it. -/
def issues (earlier : List String) : List Issue :=
  check.idIssues earlier ++ check.fileIssues ++ check.stepIssues ++ check.expectIssues

/-- The problems of a list of checks, given the identifiers of the checks before it. -/
def issuesAll : List String → List Check → List Issue
  | _, [] => []
  | earlier, check :: rest => check.issues earlier ++ issuesAll (check.id :: earlier) rest

end Check

namespace Rubric

/-- All problems of a rubric. -/
def issues (rubric : Rubric) : List Issue :=
  (if rubric.checks.isEmpty then [.noChecks] else []) ++ Check.issuesAll [] rubric.checks

end Rubric
end SnippetRubric
