import SnippetRubric.Decimal.Shortest
import SnippetRubric.Text.Quoted

/-!
# Document values

What a document in a data format says, free of the format: texts, numbers, truth values, lists,
and tables of named values in the order in which they were written.
-/

namespace SnippetRubric
namespace Document

/-- A value of a document. -/
inductive Value where
  | null
  | boolean (b : Bool)
  | integer (i : Int)
  | real (x : Float)
  | text (s : String)
  | list (elements : List Value)
  | table (entries : List (String × Value))
  /-- A date, a time or both; nothing is asked of it but that it is there. -/
  | moment
deriving Inhabited

/-- The conventions of a data format that a reader of values can notice. -/
structure Format where
  /-- How messages write real numbers. -/
  reals : Decimal.Layout
  /-- Whether a record written as a list must not have more elements than fields. -/
  countsElements : Bool

/-- Rubric documents: real numbers are written in full, surplus elements are ignored. -/
def Format.toml : Format := ⟨.full, false⟩

/-- JSON: extreme numbers are written with an exponent, surplus elements are refused. -/
def Format.json : Format := ⟨.scientific, true⟩

namespace Value

/-- What a message calls a value. -/
def describe (format : Format) : Value → String
  | null => "null"
  | boolean b => s!"boolean `{b}`"
  | integer i => s!"integer `{i}`"
  | real x => s!"floating point `{format.reals.show x}`"
  | text s => s!"string {Text.quoted s}"
  | list _ => "sequence"
  | table _ => "map"
  | moment => "map"

end Value
end Document
end SnippetRubric
