/-!
# Shapes

The grammar of TypeScript has more kinds of node than a query needs to tell apart.  A *shape* is
the role that a node plays for the queries: several kinds share a shape, and a kind without a role
of its own has the shape `other`.
-/

namespace SnippetRubric

/-- The role of a node. -/
inductive Shape where
  | program
  | block
  | variableStatement
  | declarator
  | function
  | method
  | arrow
  | functionExpression
  | typeAlias
  | interface
  | classDecl
  | classBody
  | classProperty
  | parameter
  | typeLiteral
  | propertySignature
  | typeClause
  | conditional
  | exported
  | other
deriving DecidableEq, Repr, Inhabited

namespace Shape

/-- The shape of each kind that has one of its own. -/
def kinds : List (String × Shape) :=
  [("program", .program),
   ("statement_block", .block),
   ("lexical_declaration", .variableStatement),
   ("variable_declaration", .variableStatement),
   ("variable_declarator", .declarator),
   ("function_declaration", .function),
   ("generator_function_declaration", .function),
   ("function_signature", .function),
   ("method_definition", .method),
   ("method_signature", .method),
   ("abstract_method_signature", .method),
   ("arrow_function", .arrow),
   ("function_expression", .functionExpression),
   ("function", .functionExpression),
   ("generator_function", .functionExpression),
   ("type_alias_declaration", .typeAlias),
   ("interface_declaration", .interface),
   ("class_declaration", .classDecl),
   ("abstract_class_declaration", .classDecl),
   ("class_body", .classBody),
   ("public_field_definition", .classProperty),
   ("required_parameter", .parameter),
   ("optional_parameter", .parameter),
   ("object_type", .typeLiteral),
   ("interface_body", .typeLiteral),
   ("property_signature", .propertySignature),
   ("type_annotation", .typeClause),
   ("if_statement", .conditional),
   ("export_statement", .exported)]

/-- The shape of a kind of node. -/
def ofKind (kind : String) : Shape :=
  (kinds.lookup kind).getD .other

/-- A kind with a shape of its own is listed with that shape. -/
theorem mem_kinds_of_ofKind {kind : String} {shape : Shape} (h : ofKind kind = shape)
    (hshape : shape ≠ .other) : (kind, shape) ∈ kinds := by
  rw [ofKind] at h
  cases hlookup : kinds.lookup kind with
  | none =>
      rw [hlookup] at h
      exact absurd h.symm hshape
  | some s =>
      obtain ⟨before, after, hkinds, _⟩ := List.lookup_eq_some_iff.mp hlookup
      rw [hlookup, Option.getD_some] at h
      rw [hkinds, ← h]
      simp

/-- What a reader is told that a node of this shape is. -/
def label : Shape → String
  | program => "program"
  | block => "block"
  | variableStatement => "variable"
  | declarator => "declarator"
  | function => "function"
  | method => "method"
  | arrow => "arrow function"
  | functionExpression => "function expression"
  | typeAlias => "type"
  | interface => "interface"
  | classDecl => "class"
  | classBody => "class body"
  | classProperty => "property"
  | parameter => "parameter"
  | typeLiteral => "type literal"
  | propertySignature => "property signature"
  | typeClause => "type annotation"
  | conditional => "if"
  | exported => "export"
  | other => "statement"

/-- The shape's own name, one word in capitals. -/
def name : Shape → String
  | program => "Program"
  | block => "Block"
  | variableStatement => "Variable"
  | declarator => "Declarator"
  | function => "Function"
  | method => "Method"
  | arrow => "Arrow"
  | functionExpression => "FunctionExpression"
  | typeAlias => "TypeAlias"
  | interface => "Interface"
  | classDecl => "Class"
  | classBody => "ClassBody"
  | classProperty => "ClassProperty"
  | parameter => "Parameter"
  | typeLiteral => "TypeLiteral"
  | propertySignature => "PropertySignature"
  | typeClause => "TypeAnnotation"
  | conditional => "If"
  | exported => "Export"
  | other => "Other"

end Shape
end SnippetRubric
