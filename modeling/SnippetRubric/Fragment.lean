import SnippetRubric.Text.Blank
import SnippetRubric.Tree.Copy
import SnippetRubric.Tree.Damage

/-!
# Fragments

A type, a method, a property or a parameter is no program of its own.  To read such a *fragment*,
its text is put into a host program, the host is parsed, and the node of the fragment is taken out
again.  A fragment that damages its host, or that breaks out of it into a second statement, is not
read.
-/

namespace SnippetRubric

/-- What a text is read as. -/
inductive FragmentContext where
  | generic
  | typeReference
  | method
  | property
  | parameter
deriving DecidableEq, Repr, Inhabited

namespace FragmentContext

/-- All contexts. -/
def all : List FragmentContext :=
  [generic, typeReference, method, property, parameter]

/-- The name of a context. -/
def name : FragmentContext → String
  | generic => "generic"
  | typeReference => "type-reference"
  | method => "method"
  | property => "property"
  | parameter => "parameter"

/-- The program that hosts a fragment. -/
def embed (context : FragmentContext) (fragment : String) : String :=
  match context with
  | generic => fragment
  | typeReference => "let _ : " ++ fragment ++ ";"
  | method | property => "class _ \x7b " ++ fragment ++ " \x7d"
  | parameter => "function _(" ++ fragment ++ ") \x7b\x7d"

end FragmentContext

namespace Tree

/-- The only statement of a program; none when there are several or none. -/
def singleStatement? (root : Node) : Option Node :=
  match root.statements with
  | [statement] => some statement
  | _ => none

/-- The statement that hosts a fragment: the only one of a program without damage. -/
def host? (root : Node) : Option Node :=
  if root.hasDamage then none else root.singleStatement?

end Tree

namespace FragmentContext

/-- The fragment's node in the host program with this root. -/
def extract (context : FragmentContext) (root : Node) : Option Node :=
  match context with
  | generic => some (root.singleStatement?.getD root)
  | typeReference => do
      let host ← root.host?
      let declarator ← host.firstOf? .declarator
      let clause ← declarator.child? "type"
      clause.firstNamed?
  | method => do
      let host ← root.host?
      let body ← host.child? "body"
      body.firstOf? .method
  | property => do
      let host ← root.host?
      let body ← host.child? "body"
      body.firstOf? .classProperty
  | parameter => do
      let host ← root.host?
      let parameters ← host.child? "parameters"
      parameters.firstOf? .parameter

/-- The node of a fragment; none when the fragment is blank, too deep or does not fit its host. -/
def read (context : FragmentContext) (parse : Parser) (fragment : String) : Option Node :=
  if Text.isBlank fragment then
    none
  else
    let hosted := context.embed fragment
    match (parse hosted).copy hosted with
    | .ok root => context.extract root
    | .error _ => none

end FragmentContext

/-- Judges a whole source. -/
def judgeSource (parse : Parser) (source : String) : Except SyntaxFault Unit :=
  (parse source).verdict source

/-- Judges the program that hosts a fragment. -/
def judgeFragment (parse : Parser) (context : FragmentContext) (fragment : String) :
    Except SyntaxFault Unit :=
  judgeSource parse (context.embed fragment)

end SnippetRubric
