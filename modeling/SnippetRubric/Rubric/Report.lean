import SnippetRubric.Files.FileTree
import SnippetRubric.Rubric.Evaluation

/-!
# Reports

Running a rubric reads the file of every check and reports what came of the check: an outcome, or
the reason why the file could not be read.  A file that does not follow the grammar is evaluated
all the same, with a warning.
-/

namespace SnippetRubric

/-- What came of running a check. -/
inductive RunResult where
  | evaluated (outcome : Outcome)
  | unreadable (path : String) (reason : ReadError)
deriving DecidableEq, Repr

namespace RunResult

/-- Whether the check was evaluated and passed. -/
def isPassed : RunResult → Bool
  | evaluated outcome => outcome.isPassed
  | unreadable _ _ => false

end RunResult

/-- A file that does not follow the grammar. -/
structure Warning where
  file : String
  fault : SyntaxFault
deriving DecidableEq, Repr

namespace Warning

/-- The wording of a warning. -/
def message (warning : Warning) : String :=
  s!"{warning.file} does not parse cleanly: {warning.fault.message}"

end Warning

/-- The report on one check. -/
structure Report where
  id : String
  file : String
  description : Option String
  result : RunResult
  warnings : List Warning
deriving DecidableEq, Repr

namespace Report

/-- Whether the check was evaluated and passed. -/
def isPassed (report : Report) : Bool := report.result.isPassed

end Report

namespace Check

/-- The path of a check's file under a root directory. -/
def path (root : String) (check : Check) : String :=
  Path.join root check.file

/-- The warning about a source that does not follow the grammar. -/
def warnings (parse : Parser) (source : String) (check : Check) : List Warning :=
  match judgeSource parse source with
  | .ok () => []
  | .error fault => [⟨check.file, fault⟩]

/-- Runs a check under a root directory. -/
def run (parse : Parser) (read : Reader) (root : String) (check : Check) : Report :=
  let (result, warnings) : RunResult × List Warning :=
    match read (check.path root) with
    | .ok source => (.evaluated (check.evaluate parse source), check.warnings parse source)
    | .error reason => (.unreadable (check.path root) reason, [])
  { id := check.id, file := check.file, description := check.description, result, warnings }

end Check

namespace Rubric

/-- Runs all checks of a rubric under a root directory. -/
def run (parse : Parser) (read : Reader) (root : String) (rubric : Rubric) : List Report :=
  rubric.checks.map (Check.run parse read root)

/-- The root directory of a run: the one that is given, or else the directory of the rubric. -/
def root (rubric : Rubric) (given : Option String) : String :=
  (given.or rubric.directory).getD "."

end Rubric
end SnippetRubric
