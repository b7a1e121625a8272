import SnippetRubric.Document.Decode
import SnippetRubric.Rubric.Basic

/-!
# The schema of rubrics

How a document value is read as a rubric and its parts.  Steps are tagged by `kind`, expectations
by `type`; fields with a natural default may be left out, and keys that are not fields are ignored.
-/

namespace SnippetRubric
namespace Schema

open Document Document.Decoder

/-! ## Expected members -/

/-- The fields of an expected member. -/
def memberDeclaration : Declaration :=
  ⟨"struct TypeProp",
    [field "name" text, field "type" (nullable text), field "optional" (nullable boolean)]⟩

/-- An expected member. -/
def member : Decoder ExpectedMember := fun v => do
  let fields ← Fields.ofValue memberDeclaration.title v
  fields.decode memberDeclaration .counted fun fields => do
    let name ← fields.required memberDeclaration "name" text
    let type ← fields.optional memberDeclaration "type" (nullable text) none
    let optional ← fields.optional memberDeclaration "optional" (nullable boolean) none
    return { name, type, optional }

/-! ## Variants -/

/-- A variant with a single field. -/
def single {α β : Type} (title name : String) (decode : Decoder α) (build : α → β)
    (fields : Fields) : Except DecodeError β :=
  let declaration : Declaration := ⟨title, [field name decode]⟩
  fields.decode declaration .counted fun fields =>
    (fields.required declaration name decode).map build

/-- A variant with a single field that may be left out. -/
def singleOr {α β : Type} (title name : String) (decode : Decoder α) (default : α)
    (build : α → β) (fields : Fields) : Except DecodeError β :=
  let declaration : Declaration := ⟨title, [field name decode]⟩
  fields.decode declaration .counted fun fields =>
    (fields.optional declaration name decode default).map build

/-- A variant without fields. -/
def bare {β : Type} (result : β) (fields : Fields) : Except DecodeError β :=
  fields.decode ⟨"", []⟩ .counted fun _ => .ok result

/-! ## Steps -/

/-- The fields of a step that looks for a function. -/
def functionDeclaration : Declaration :=
  ⟨"struct variant Step::Function", [field "name" text, field "include_variables" boolean]⟩

/-- A step that looks for a function. -/
def functionStep (fields : Fields) : Except DecodeError Step :=
  fields.decode functionDeclaration .counted fun fields => do
    let name ← fields.required functionDeclaration "name" text
    let withVariables ← fields.optional functionDeclaration "include_variables" boolean false
    return .functionNamed name withVariables

/-- The kinds of steps, each with the reading of its fields. -/
def stepVariants : List (String × (Fields → Except DecodeError Step)) :=
  [("variable", single "struct variant Step::Variable" "name" text .variableNamed),
   ("function", functionStep),
   ("type", single "struct variant Step::Type" "name" text .typeNamed),
   ("interface", single "struct variant Step::Interface" "name" text .interfaceNamed),
   ("class", single "struct variant Step::Class" "name" text .classNamed),
   ("method", single "struct variant Step::Method" "name" text .methodNamed),
   ("property", single "struct variant Step::Property" "name" text .propertyNamed),
   ("parameter", single "struct variant Step::Parameter" "index" natural .parameterAt),
   ("if", singleOr "struct variant Step::If" "index" natural 0 .conditionalAt),
   ("condition", single "struct variant Step::Condition" "index" natural .conditionAt),
   ("branch", single "struct variant Step::Branch" "index" natural .branchAt),
   ("annotation", bare .declaredType),
   ("return-annotation", bare .resultType),
   ("body", bare .body)]

/-- The variant that a tag selects. -/
def variant {β : Type} (title tag : String)
    (variants : List (String × (Fields → Except DecodeError β))) : Decoder β := fun v => do
  let (name, fields) ← tagged title tag (variants.map Prod.fst) v
  match variants.lookup name with
  | some read => read fields
  | none => .error (.unknownVariant name (variants.map Prod.fst))

/-- A step. -/
def step : Decoder Step :=
  variant "internally tagged enum Step" "kind" stepVariants

/-! ## Expectations -/

/-- The types of expectations, each with the reading of its fields. -/
def expectationVariants : List (String × (Fields → Except DecodeError Expectation)) :=
  [("exists", bare .present),
   ("absent", bare .absent),
   ("matches", single "struct variant Expectation::Matches" "text" text .agrees),
   ("annotation", single "struct variant Expectation::Annotation" "text" text .declaredType),
   ("return-annotation",
     single "struct variant Expectation::ReturnAnnotation" "text" text .resultType),
   ("type-props", single "struct variant Expectation::TypeProps" "props" (list member) .members),
   ("parameter-count",
     single "struct variant Expectation::ParameterCount" "count" natural .parameterCount),
   ("value-call", single "struct variant Expectation::ValueCall" "callee" text .callTo),
   ("integer", bare .integer)]

/-- An expectation. -/
def expectation : Decoder Expectation :=
  variant "internally tagged enum Expectation" "type" expectationVariants

/-! ## Checks and rubrics -/

/-- The treatment of surplus elements in a record that stands on its own. -/
def surplus (format : Format) : Surplus :=
  if format.countsElements then .refused else .ignored

/-- The fields of a check. -/
def checkDeclaration : Declaration :=
  ⟨"struct CheckDefinition",
    [field "id" text, field "file" text, field "description" (nullable text),
     field "select" (list step), field "expect" expectation]⟩

/-- A check. -/
def check (format : Format) : Decoder Check := fun v => do
  let fields ← Fields.ofValue checkDeclaration.title v
  fields.decode checkDeclaration (surplus format) fun fields => do
    let id ← fields.required checkDeclaration "id" text
    let file ← fields.required checkDeclaration "file" text
    let description ← fields.optional checkDeclaration "description" (nullable text) none
    let select ← fields.optional checkDeclaration "select" (list step) []
    let expect ← fields.required checkDeclaration "expect" expectation
    return { id, file, description, select, expect }

/-- The fields of a rubric's metadata. -/
def metadataDeclaration : Declaration :=
  ⟨"struct Metadata", [field "name" text, field "description" (nullable text)]⟩

/-- A rubric's metadata. -/
def metadata (format : Format) : Decoder Metadata := fun v => do
  let fields ← Fields.ofValue metadataDeclaration.title v
  fields.decode metadataDeclaration (surplus format) fun fields => do
    let name ← fields.optional metadataDeclaration "name" text ""
    let description ← fields.optional metadataDeclaration "description" (nullable text) none
    return { name, description }

/-- The fields of a rubric. -/
def rubricDeclaration (format : Format) : Declaration :=
  ⟨"struct RubricConfig", [field "meta" (metadata format), field "checks" (list (check format))]⟩

/-- A rubric. -/
def rubric (format : Format) : Decoder Rubric := fun v => do
  let declaration := rubricDeclaration format
  let fields ← Fields.ofValue declaration.title v
  fields.decode declaration (surplus format) fun fields => do
    let metadata ← fields.optional declaration "meta" (metadata format) ⟨"", none⟩
    let checks ← fields.optional declaration "checks" (list (check format)) []
    return { metadata, checks, directory := none }

/-! ## Contexts -/

/-- A fragment context, by name. -/
def context : Decoder FragmentContext := fun v => do
  let name ← variantName (FragmentContext.all.map FragmentContext.name) v
  return (FragmentContext.all.find? fun context => context.name == name).getD .generic

end Schema
end SnippetRubric
