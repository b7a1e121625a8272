import SnippetRubric.Command.Help
import SnippetRubric.Command.Outline
import SnippetRubric.Command.ReportText
import SnippetRubric.Rubric.Loading

/-!
# Running commands

A command maps what it finds in files to a transcript.  `check` succeeds when every check of its
rubric passes, `outline` when its file can be read, and both fail otherwise.
-/

namespace SnippetRubric
namespace Command

/-- The transcript of an error that ends the program: its message, and what lies behind it with
every line indented. -/
def abort (message cause : String) : Transcript :=
  let indented := "\n".intercalate ((cause.splitOn "\n").map ("    " ++ ·))
  { exit := 1, out := "", err := s!"Error: {message}\n\nCaused by:\n{indented}\n" }

/-- Runs the checks of a rubric file. -/
def runCheck (parse : Parser) (read : Reader) (styled : Bool) (path : String)
    (root : Option String) (json : Bool) : Transcript :=
  match Rubric.load read path with
  | .error e => abort e.message e.cause
  | .ok rubric =>
      let reports := rubric.run parse read (rubric.root root)
      let (out, err) :=
        if json then (Report.showJson reports, "")
        else Report.showText styled rubric.metadata.name reports
      { exit := if reports.all Report.isPassed then 0 else 1, out, err }

/-- Lists the declarations of a file. -/
def runOutline (parse : Parser) (read : Reader) (styled : Bool) (path : String) : Transcript :=
  match read path with
  | .error reason => abort s!"failed to read {path}" reason.message
  | .ok source =>
      { exit := 0, out := Transcript.ofLines (Outline.lines parse styled source), err := "" }

/-- Runs a command. -/
def run (parse : Parser) (read : Reader) (styled : Bool) : Command → Transcript
  | check rubric root json => runCheck parse read styled rubric root json
  | outline file => runOutline parse read styled file

/-- The paths that a command reads, as far as `read` lets them be known: the files of a rubric's
checks are known once the rubric is. -/
def paths (read : Reader) : Command → List String
  | check rubric root _ =>
      rubric ::
        match Rubric.load read rubric with
        | .ok loaded => loaded.checks.map (Check.path (loaded.root root))
        | .error _ => []
  | outline file => [file]

end Command

namespace Invocation

/-- What an invocation leaves behind; arguments that ask for nothing sensible have status two. -/
def transcript (parse : Parser) (read : Reader) (styled : Bool) : Invocation → Transcript
  | .run command _ => command.run parse read styled
  | .help topic => { exit := 0, out := topic.text, err := "" }
  | .version => { exit := 0, out := s!"{programName} {programVersion}\n", err := "" }
  | .misuse => { exit := 2, out := "", err := HelpTopic.program.text }

end Invocation
end SnippetRubric
