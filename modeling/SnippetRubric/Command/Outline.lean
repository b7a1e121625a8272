import SnippetRubric.Command.Style
import SnippetRubric.Handle.Lookup

/-!
# Outlines

The outline of a source has a line for every statement of its top-level scope, and below a class a
line for every method and property.
-/

namespace SnippetRubric
namespace Outline

/-- What a line says of a callable after its name. -/
def signature (h : Handle) : String :=
  s!" ({h.parameters.length} parameters)" ++
    (if h.resultType.isEmpty then "" else s!" -> {h.resultType.display}")

/-- What a line says of the type of a declaration after its name; an alias shows none. -/
def typeSuffix (shape : Shape) (h : Handle) : String :=
  if h.declaredType.isEmpty || shape = .typeAlias then "" else s!": {h.declaredType.display}"

/-- The line of an entry. -/
def line (styled : Bool) (h : Handle) : String :=
  match h.node with
  | none => "(empty)"
  | some n =>
      let label := Style.cyan.paint styled n.shape.label
      if n.shape = .conditional then
        let condition := (h.conditions.head?.getD .empty).display
        s!"{label} ({condition}) [{h.branches.length} branches]"
      else
        let name := Style.bold.paint styled (h.name?.getD "<anonymous>")
        let rest :=
          if n.shape = .function ∨ n.shape = .method then signature h else typeSuffix n.shape h
        s!"{label} {name}{rest}"

/-- The lines of an entry and, below a class, of its members. -/
def entryLines (styled : Bool) (h : Handle) : List String :=
  line styled h :: (h.methods ++ h.properties).map fun member => "  " ++ line styled member

/-- The lines of a source. -/
def lines (parse : Parser) (styled : Bool) (source : String) : List String :=
  let h := Handle.ofSource parse source
  if h.isEmpty then [Style.dimmed.paint styled "(empty)"]
  else h.statements.flatMap (entryLines styled)

end Outline
end SnippetRubric
