import SnippetRubric.Handle.Lookup
import SnippetRubric.Handle.TypeMember

/-!
# Rubrics

A *rubric* is a list of checks.  A *check* names a file, selects a place in it by *steps*, each a
lookup in what the step before has found, and states what is *expected* of the place.
-/

namespace SnippetRubric

/-- One lookup of a selection. -/
inductive Step where
  | variableNamed (name : String)
  | functionNamed (name : String) (withVariables : Bool)
  | typeNamed (name : String)
  | interfaceNamed (name : String)
  | classNamed (name : String)
  | methodNamed (name : String)
  | propertyNamed (name : String)
  | parameterAt (index : Nat)
  | conditionalAt (index : Nat)
  | conditionAt (index : Nat)
  | branchAt (index : Nat)
  | declaredType
  | resultType
  | body
deriving DecidableEq, Repr

namespace Step

/-- The name that a step looks for. -/
def name? : Step → Option String
  | variableNamed name | functionNamed name _ | typeNamed name | interfaceNamed name
  | classNamed name | methodNamed name | propertyNamed name => some name
  | _ => none

/-- What a message calls a step. -/
def describe : Step → String
  | variableNamed name => s!"variable '{name}'"
  | functionNamed name _ => s!"function '{name}'"
  | typeNamed name => s!"type '{name}'"
  | interfaceNamed name => s!"interface '{name}'"
  | classNamed name => s!"class '{name}'"
  | methodNamed name => s!"method '{name}'"
  | propertyNamed name => s!"property '{name}'"
  | parameterAt index => s!"parameter #{index}"
  | conditionalAt index => s!"if statement #{index}"
  | conditionAt index => s!"condition #{index}"
  | branchAt index => s!"branch #{index}"
  | declaredType => "annotation"
  | resultType => "return annotation"
  | body => "body"

/-- The lookup that a step stands for. -/
def apply (h : Handle) : Step → Handle
  | variableNamed name => h.findVariable name
  | functionNamed name withVariables => h.findFunction name withVariables
  | typeNamed name => h.findType name
  | interfaceNamed name => h.findInterface name
  | classNamed name => h.findClass name
  | methodNamed name => h.findMethod name
  | propertyNamed name => h.findProperty name
  | parameterAt index => h.parameters[index]?.getD .empty
  | conditionalAt index => h.conditionals[index]?.getD .empty
  | conditionAt index => h.conditions[index]?.getD .empty
  | branchAt index => h.branches[index]?.getD .empty
  | declaredType => h.declaredType
  | resultType => h.resultType
  | body => h.body

end Step

/-- What is expected of a selected place. -/
inductive Expectation where
  | present
  | absent
  | agrees (text : String)
  | declaredType (text : String)
  | resultType (text : String)
  | members (expected : List ExpectedMember)
  | parameterCount (count : Nat)
  | callTo (callee : String)
  | integer
deriving DecidableEq, Repr

/-- One check of a rubric. -/
structure Check where
  id : String
  file : String
  description : Option String
  select : List Step
  expect : Expectation
deriving DecidableEq, Repr

/-- What a rubric says about itself. -/
structure Metadata where
  name : String
  description : Option String
deriving DecidableEq, Repr, Inhabited

/-- Checks, and the directory of the file that they were read from. -/
structure Rubric where
  metadata : Metadata
  checks : List Check
  directory : Option String
deriving DecidableEq, Repr

end SnippetRubric
