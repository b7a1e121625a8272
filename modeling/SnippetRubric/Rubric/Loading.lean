import SnippetRubric.Document.Toml.Reader
import SnippetRubric.Files.FileTree
import SnippetRubric.Rubric.Schema
import SnippetRubric.Rubric.Validation

/-!
# Loading rubrics

A rubric is loaded from a text: the text is read as a document, the document is decoded, and the
rubric is validated.  A rubric that comes from a file remembers the directory of the file.
-/

namespace SnippetRubric

/-- Where the text of a rubric came from. -/
inductive RubricOrigin where
  | inline
  | file (path : String)
deriving DecidableEq, Repr

namespace RubricOrigin

/-- What a message calls the origin. -/
def name : RubricOrigin → String
  | inline => "<inline>"
  | file path => path

end RubricOrigin

/-- Why a rubric is not loaded. -/
inductive LoadError where
  | unreadable (path : String) (reason : ReadError)
  | malformed (origin : RubricOrigin)
  | misfit (origin : RubricOrigin) (problem : Document.DecodeError)
  | invalid (origin : RubricOrigin) (issues : List Issue)

namespace LoadError

/-- What lies behind the error. -/
def cause : LoadError → String
  | unreadable _ reason => reason.message
  | malformed _ => "not a TOML document"
  | misfit _ problem => problem.message .toml
  | invalid _ issues => "\n".intercalate (issues.map Issue.message)

/-- The wording of each error, with what lies behind it. -/
def message (e : LoadError) : String :=
  match e with
  | unreadable path _ => s!"cannot read rubric {path}: {e.cause}"
  | malformed origin | misfit origin _ => s!"rubric {origin.name} is not valid TOML: {e.cause}"
  | invalid origin issues => s!"rubric {origin.name} has {issues.length} problem(s):\n{e.cause}"

end LoadError

namespace Rubric

/-- The rubric that a document describes, if it is valid. -/
def ofDocument (origin : RubricOrigin) (document : Document.Value) : Except LoadError Rubric :=
  match Schema.rubric .toml document with
  | .error problem => .error (.misfit origin problem)
  | .ok rubric =>
      if rubric.issues.isEmpty then .ok rubric else .error (.invalid origin rubric.issues)

/-- The rubric that a text describes, if it is valid. -/
def ofText (origin : RubricOrigin) (text : String) : Except LoadError Rubric :=
  match Document.Toml.read? text with
  | none => .error (.malformed origin)
  | some document => ofDocument origin document

/-- The rubric in a file. -/
def load (read : Reader) (path : String) : Except LoadError Rubric :=
  match read path with
  | .error reason => .error (.unreadable path reason)
  | .ok text =>
      (ofText (.file path) text).map fun rubric =>
        { rubric with directory := some (Path.directory path) }

end Rubric
end SnippetRubric
