import SnippetRubric.Command.Run
import SnippetRubric.Tree.Bank

/-!
# The program

Reads the trees of all texts to be parsed as a tree bank from standard input, runs the command that
the arguments ask for on the files that it names, and prints the transcript.
-/

namespace SnippetRubric

/-- The reason that an error of the system stands for. -/
def ReadError.ofSystem : IO.Error → ReadError
  | .noFileOrDirectory _ _ _ => .notFound
  | .inappropriateType _ 21 _ => .isADirectory
  | .inappropriateType _ 20 _ => .notADirectory
  | .resourceExhausted _ 36 _ => .nameTooLong
  | .permissionDenied _ code _ => .other "Permission denied" code.toNat
  | e => .other e.toString 0

/-- The text of a file. -/
def readFile (path : String) : IO (Except ReadError String) := do
  try
    let bytes ← IO.FS.readBinFile path
    match String.fromUTF8? bytes with
    | some text => return .ok text
    | none => return .error .notUtf8
  catch e =>
    return .error (.ofSystem e)

/-- What was read, as a lookup; nothing else can be found. -/
def known (contents : List (String × Except ReadError String)) : Reader := fun path =>
  (contents.lookup path).getD (.error .notFound)

/-- Reads the files at some paths. -/
def readFiles (paths : List String) : IO Reader := do
  let contents ← paths.mapM fun path => do return (path, ← readFile path)
  return known contents

/-- Reads the files that an invocation needs: first those that it names, then those that these
name. -/
def readFor : Invocation → IO Reader
  | .run command _ => do
      let first ← readFiles (command.paths (known []))
      readFiles (command.paths first)
  | _ => return known []

end SnippetRubric

open SnippetRubric in
/-- Runs the command that the arguments ask for. -/
def main (arguments : List String) : IO UInt32 := do
  let bank ← (← IO.getStdin).readToEnd
  let parse := TreeBank.parser (TreeBank.records bank)
  let invocation := Invocation.ofArguments 0 arguments
  let read ← readFor invocation
  let output ← IO.getStdout
  let styled := (← output.isTty) && (← IO.getEnv "NO_COLOR").isNone
  let transcript := invocation.transcript parse read styled
  IO.print transcript.out
  IO.eprint transcript.err
  return UInt32.ofNat transcript.exit
