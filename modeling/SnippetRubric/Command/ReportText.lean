import SnippetRubric.Command.Json
import SnippetRubric.Command.Style
import SnippetRubric.Rubric.Report

/-!
# Showing reports

Reports are shown as lines for a reader, with a summary at the end, or as JSON for a program.
-/

namespace SnippetRubric

/-- What a command leaves behind: its exit status and the texts on both outputs. -/
structure Transcript where
  exit : Nat
  out : String
  err : String
deriving DecidableEq, Repr

namespace Transcript

/-- The text of lines, each ended by a line break. -/
def ofLines (lines : List String) : String :=
  String.join (lines.map (· ++ "\n"))

end Transcript

namespace Report

/-- The lines about what came of a check, for the normal and for the error output. -/
def resultLines (styled : Bool) (report : Report) : List String × List String :=
  let tick := Style.green.paint styled "✓"
  let cross := Style.red.paint styled "✗"
  match report.result with
  | .evaluated .passed => ([s!"{tick} {report.id}"], [])
  | .evaluated (.failed failure) =>
      ([s!"{cross} {report.id}: {failure.message}", s!"  File: {report.file}"], [])
  | .unreadable path reason =>
      ([], [s!"{cross} {report.id}: Error - failed to read {path}: {reason.message}"])

/-- The lines of a report, for the normal and for the error output. -/
def lines (styled : Bool) (report : Report) : List String × List String :=
  let (out, err) := report.resultLines styled
  let description :=
    report.description.toList.map fun text => "  " ++ Style.dimmed.paint styled text
  let warnings := report.warnings.map fun warning =>
    "  " ++ Style.yellow.paint styled s!"Warning: {warning.message}"
  (out ++ description ++ warnings, err)

/-- The fields that tell what came of a check. -/
def resultFields (report : Report) : List (String × Json) :=
  match report.result with
  | .evaluated .passed => [("status", .text "passed")]
  | .evaluated (.failed failure) =>
      [("status", .text "failed"), ("reason", .text failure.message)]
  | .unreadable path reason =>
      [("status", .text "error"), ("message", .text s!"failed to read {path}: {reason.message}")]

/-- A report as JSON; what is absent is left out. -/
def toJson (report : Report) : Json :=
  let description := report.description.toList.map fun text => ("description", Json.text text)
  let warnings :=
    if report.warnings.isEmpty then []
    else [("warnings", Json.list (report.warnings.map fun warning => .text warning.message))]
  .object ([("id", .text report.id), ("file", .text report.file)] ++ description ++
    report.resultFields ++ warnings)

/-- The numbers of passed and of other reports. -/
def tally (reports : List Report) : Nat × Nat :=
  let passed := (reports.filter isPassed).length
  (passed, reports.length - passed)

/-- The summary line. -/
def summary (styled : Bool) (reports : List Report) : String :=
  let (passed, failed) := tally reports
  (if failed = 0 then Style.green else Style.red).paint styled s!"{passed} passed, {failed} failed"

/-- The reports as lines. -/
def showText (styled : Bool) (title : String) (reports : List Report) : String × String :=
  let heading := if title.isEmpty then [] else [Style.bold.paint styled title]
  let shown := reports.map (lines styled)
  (Transcript.ofLines
      (heading ++ (shown.map Prod.fst).flatten ++ ["", summary styled reports]),
    Transcript.ofLines (shown.map Prod.snd).flatten)

/-- The reports as JSON. -/
def showJson (reports : List Report) : String :=
  (Json.list (reports.map toJson)).pretty 0 ++ "\n"

end Report
end SnippetRubric
