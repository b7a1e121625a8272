import SnippetRubric.Declaration.IfChain
import SnippetRubric.Handle.Basic

/-!
# Lookups

A lookup lists the entries of a handle's scope that have a shape, or the members of a class, the
parameters of a callable, the parts of an if chain.  It never looks into nested bodies.  A lookup
by name answers with the first entry that declares the name.
-/

namespace SnippetRubric
namespace Handle

section Listings

variable (h : Handle)

/-- The entries of the scope that satisfy a test. -/
def scopeWith (keep : Node → Bool) : List Handle :=
  match h.node with
  | some n => (n.scope.filter keep).map found
  | none => []

/-- The entries of the scope. -/
def statements : List Handle :=
  match h.node with
  | some n => n.scope.map found
  | none => []

/-- The variable statements in scope. -/
def variableStatements : List Handle := h.scopeWith (·.shape == .variableStatement)

/-- The type aliases in scope. -/
def types : List Handle := h.scopeWith (·.shape == .typeAlias)

/-- The interfaces in scope. -/
def interfaces : List Handle := h.scopeWith (·.shape == .interface)

/-- The classes in scope. -/
def classes : List Handle := h.scopeWith (·.shape == .classDecl)

/-- The `if` statements in scope. -/
def conditionals : List Handle := h.scopeWith (·.shape == .conditional)

/-- Whether an entry counts as a function: variable statements that bind one do when asked for. -/
def isFunctionEntry (withVariables : Bool) (n : Node) : Bool :=
  match n.shape with
  | .function | .method => true
  | .variableStatement => withVariables && !(Callable.bindings n).isEmpty
  | _ => false

/-- The functions and methods in scope, with the variables that bind functions when asked for. -/
def functions (withVariables : Bool) : List Handle := h.scopeWith (isFunctionEntry withVariables)

/-- The members of a class that have a shape; none on anything but a class. -/
def membersOf (shape : Shape) : List Handle :=
  match h.node with
  | some n => (n.classMembers shape).map found
  | none => []

/-- The methods of a class. -/
def methods : List Handle := h.membersOf .method

/-- The properties of a class. -/
def properties : List Handle := h.membersOf .classProperty

/-- The parameters of a callable. -/
def parameters : List Handle :=
  match h.focus with
  | some n => n.parameters.map found
  | none => []

/-- The conditions of an if chain, outermost first, and an empty handle for the last `else`. -/
def conditions : List Handle :=
  match h.node.bind IfChain.ofNode? with
  | some chain =>
      chain.conditions.map (ofNode .generic) ++ chain.otherwise.toList.map fun _ => empty
  | none => []

/-- The branches of an if chain, the last `else` included. -/
def branches : List Handle :=
  match h.node.bind IfChain.ofNode? with
  | some chain => chain.branches.map (ofNode .generic)
  | none => []

end Listings

section ByName

/-- The first handle on a declaration of `name`, empty when there is none. -/
def firstDeclaring (name : String) (candidates : List Handle) : Handle :=
  (candidates.find? fun candidate => candidate.node.any (·.declares name)).getD empty

variable (h : Handle) (name : String)

/-- The variable statement that declares a name. -/
def findVariable : Handle := firstDeclaring name h.variableStatements

/-- The type alias with a name. -/
def findType : Handle := firstDeclaring name h.types

/-- The interface with a name. -/
def findInterface : Handle := firstDeclaring name h.interfaces

/-- The class with a name. -/
def findClass : Handle := firstDeclaring name h.classes

/-- The method with a name. -/
def findMethod : Handle := firstDeclaring name h.methods

/-- The property with a name. -/
def findProperty : Handle := firstDeclaring name h.properties

/-- The handle if it is on a function called `name`; a variable statement is narrowed to the
declarator that binds the name. -/
def asFunction? : Option Handle :=
  h.node.bind fun n =>
    if n.shape = .variableStatement then (n.functionDeclarator? name).map h.narrowed
    else if n.declaredName? = some name then some h
    else none

/-- The function with a name. -/
def findFunction (withVariables : Bool) : Handle :=
  ((h.functions withVariables).findSome? (·.asFunction? name)).getD empty

end ByName
end Handle
end SnippetRubric
