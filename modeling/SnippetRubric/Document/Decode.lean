import SnippetRubric.Document.Value

/-!
# Decoding records

A *record* is written as a table of its fields, in any order and among other keys, or as a list of
its fields in the order of their declaration.  A *tagged* record carries one more field, the tag,
that says which variant it is; written as a list, the tag comes first.

The first problem is reported: the entries are looked at as they are written, and what is missing
is noticed after that, in the order of declaration.
-/

namespace SnippetRubric
namespace Document

/-- Why a value does not decode. -/
inductive DecodeError where
  | missingField (name : String)
  | unknownVariant (given : String) (known : List String)
  | wrongType (given : Value) (wanted : String)
  | wrongValue (given : Value) (wanted : String)
  | wrongLength (given : Nat) (wanted : String)

namespace DecodeError

/-- The wording of each problem. -/
def message (format : Format) : DecodeError → String
  | missingField name => s!"missing field `{name}`"
  | unknownVariant given known =>
      s!"unknown variant `{given}`, expected one of " ++
        ", ".intercalate (known.map fun name => s!"`{name}`")
  | wrongType given wanted => s!"invalid type: {given.describe format}, expected {wanted}"
  | wrongValue given wanted => s!"invalid value: {given.describe format}, expected {wanted}"
  | wrongLength given wanted => s!"invalid length {given}, expected {wanted}"

end DecodeError

/-- A decoder of values. -/
abbrev Decoder (α : Type) := Value → Except DecodeError α

namespace Decoder

/-- A text. -/
def text : Decoder String
  | .text s => .ok s
  | v => .error (.wrongType v "a string")

/-- A truth value. -/
def boolean : Decoder Bool
  | .boolean b => .ok b
  | v => .error (.wrongType v "a boolean")

/-- A natural number. -/
def natural : Decoder Nat
  | .integer i => if 0 ≤ i then .ok i.toNat else .error (.wrongValue (.integer i) "usize")
  | v => .error (.wrongType v "usize")

/-- Nothing, or what `decode` reads. -/
def nullable {α : Type} (decode : Decoder α) : Decoder (Option α)
  | .null => .ok none
  | v => (decode v).map some

/-- The elements of a list, each read by `decode`; the first that fails decides. -/
def elements {α : Type} (decode : Decoder α) : List Value → Except DecodeError (List α)
  | [] => .ok []
  | v :: vs =>
      match decode v with
      | .error e => .error e
      | .ok a => (elements decode vs).map (a :: ·)

/-- A list. -/
def list {α : Type} (decode : Decoder α) : Decoder (List α)
  | .list vs => elements decode vs
  | v => .error (.wrongType v "a sequence")

end Decoder

/-- What is done with elements of a list beyond the fields of a record. -/
inductive Surplus where
  | ignored
  | refused
  | counted
deriving DecidableEq

/-- The fields of a record as they are written: by name, or by place in a record that has a title
and fields in a declared order. -/
inductive Fields where
  | named (entries : List (String × Value))
  | placed (elements : List Value)

/-- The declaration of a record: what it is called, and its fields in order, each with the test
that its values must pass. -/
structure Declaration where
  title : String
  fields : List (String × (Value → Except DecodeError Unit))

/-- A field whose values `decode` must read. -/
def field {α : Type} (name : String) (decode : Decoder α) :
    String × (Value → Except DecodeError Unit) :=
  (name, fun v => (decode v).map fun _ => ())

/-- The number of elements that a message speaks of. -/
def countOf (count : Nat) : String :=
  if count = 1 then "1 element" else s!"{count} elements"

namespace Fields

/-- The fields in a value that is written as a table or a list. -/
def ofValue (title : String) : Value → Except DecodeError Fields
  | .table entries => .ok (.named entries)
  | .list elements => .ok (.placed elements)
  | .moment => .ok (.named [])
  | v => .error (.wrongType v title)

/-- The written fields with their names, in the order of writing. -/
def entries (declaration : Declaration) : Fields → List (String × Value)
  | named entries => entries
  | placed elements => (declaration.fields.map Prod.fst).zip elements

/-- Tests every entry that is a field, in the order of writing. -/
def test (declaration : Declaration) : List (String × Value) → Except DecodeError Unit
  | [] => .ok ()
  | (name, v) :: rest =>
      match declaration.fields.lookup name with
      | none => test declaration rest
      | some passes =>
          match passes v with
          | .error e => .error e
          | .ok () => test declaration rest

/-- The problem of a field that is not written. -/
def missing (declaration : Declaration) (name : String) : Fields → DecodeError
  | named _ => .missingField name
  | placed _ =>
      .wrongLength ((declaration.fields.map Prod.fst).idxOf name)
        s!"{declaration.title} with {countOf declaration.fields.length}"

/-- A field that must be written. -/
def required {α : Type} (declaration : Declaration) (fields : Fields) (name : String)
    (decode : Decoder α) : Except DecodeError α :=
  match (fields.entries declaration).lookup name with
  | some v => decode v
  | none => .error (fields.missing declaration name)

/-- A field that may be left out. -/
def optional {α : Type} (declaration : Declaration) (fields : Fields) (name : String)
    (decode : Decoder α) (default : α) : Except DecodeError α :=
  match (fields.entries declaration).lookup name with
  | some v => decode v
  | none => .ok default

/-- The problem, if any, of elements beyond the declared fields. -/
def surplus (declaration : Declaration) (rule : Surplus) : Fields → Except DecodeError Unit
  | named _ => .ok ()
  | placed elements =>
      if elements.length ≤ declaration.fields.length then
        .ok ()
      else
        match rule with
        | .ignored => .ok ()
        | .refused => .error (.wrongLength elements.length "fewer elements in array")
        | .counted =>
            .error (.wrongLength elements.length
              s!"{countOf declaration.fields.length} in sequence")

/-- Decodes a record: tests the written fields, builds the result, and looks at the surplus. -/
def decode {α : Type} (declaration : Declaration) (rule : Surplus) (fields : Fields)
    (build : Fields → Except DecodeError α) : Except DecodeError α :=
  match test declaration (fields.entries declaration) with
  | .error e => .error e
  | .ok () =>
      match build fields with
      | .error e => .error e
      | .ok a => (fields.surplus declaration rule).map fun _ => a

end Fields

/-- The variant that a tag names, among the known ones. -/
def variantOf (known : List String) : Value → Except DecodeError String
  | .text name => if name ∈ known then .ok name else .error (.unknownVariant name known)
  | v => .error (.wrongType v "variant identifier")

/-- The variant and the other fields of a tagged record. -/
def tagged (title tag : String) (known : List String) :
    Value → Except DecodeError (String × Fields)
  | .table entries =>
      match entries.lookup tag with
      | none => .error (.missingField tag)
      | some v => (variantOf known v).map fun name => (name, .named entries)
  | .moment => .error (.missingField tag)
  | .list [] => .error (.missingField tag)
  | .list (v :: rest) => (variantOf known v).map fun name => (name, .placed rest)
  | v => .error (.wrongType v title)

/-- A name on its own: a text, or a table whose only key it is and whose value is null. -/
def variantName (known : List String) : Value → Except DecodeError String
  | .text name => variantOf known (.text name)
  | .table [(name, v)] =>
      match variantOf known (.text name) with
      | .error e => .error e
      | .ok name =>
          match v with
          | .null => .ok name
          | v => .error (.wrongType v "unit")
  | .table entries => .error (.wrongValue (.table entries) "map with a single key")
  | v => .error (.wrongType v "string or map")

end Document
end SnippetRubric
