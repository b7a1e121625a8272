import SnippetRubric.Command.Arguments

/-!
# Help texts
-/

namespace SnippetRubric

/-- The name by which the program is called. -/
def programName : String := "ts-explorer"

/-- The version of the program. -/
def programVersion : String := "0.1.0"

/-- The help text on a topic. -/
def HelpTopic.text : HelpTopic → String
  | program =>
      s!"Structural checks for TypeScript snippets

Usage: {programName} [OPTIONS] <COMMAND>

Commands:
  check    Run a rubric of structural checks
  outline  List the top-level declarations of a file
  help     Print this message or the help of the given subcommand(s)

Options:
  -v, --verbose...  Log more detail (repeat for trace output)
  -h, --help        Print help
  -V, --version     Print version
"
  | check =>
      s!"Run a rubric of structural checks

Usage: {programName} check [OPTIONS] --rubric <RUBRIC>

Options:
  -r, --rubric <RUBRIC>  Rubric TOML file
  -v, --verbose...       Log more detail (repeat for trace output)
      --root <ROOT>      Directory the rubric's file paths are relative to (defaults to the " ++
        "rubric's directory)
      --json             Print results as JSON
  -h, --help             Print help
"
  | outline =>
      s!"List the top-level declarations of a file

Usage: {programName} outline [OPTIONS] <FILE>

Arguments:
  <FILE>  TypeScript source file

Options:
  -v, --verbose...  Log more detail (repeat for trace output)
  -h, --help        Print help
"
  | help =>
      s!"Print this message or the help of the given subcommand(s)

Usage: {programName} help [COMMAND]...

Arguments:
  [COMMAND]...  Print help for the subcommand(s)
"

end SnippetRubric
