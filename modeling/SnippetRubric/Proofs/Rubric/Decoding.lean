import SnippetRubric.Proofs.Document.Layout
import SnippetRubric.Rubric.Schema

/-!
# The schema reads every layout

Each part of a rubric has a template: its fields under their names, with those that equal their
defaults marked as omissible, and, for a step or an expectation, the tag.  The decoder of the part
reads that template (`Schema.reads_member`, `Schema.reads_step`, `Schema.reads_expectation`,
`Schema.reads_check`, `Schema.reads_metadata`), so what is loaded depends neither on the order of
keys, nor on whether defaults are spelled out, nor on keys that the schema does not know.  The main
statement is `Schema.rubric_of_layout`.
-/

namespace SnippetRubric

open Document

/-! ## Templates -/

/-- The fields of an expected member. -/
def ExpectedMember.slots (member : ExpectedMember) : List (Slot Template) :=
  [⟨"name", false, .text member.name⟩,
   ⟨"type", member.type = none, .nullable .text member.type⟩,
   ⟨"optional", member.optional = none, .nullable .boolean member.optional⟩]

/-- An expected member. -/
def ExpectedMember.template (member : ExpectedMember) : Template :=
  .record member.slots

/-- The tag of a variant and its fields. -/
def variantSlots (tag name : String) (slots : List (Slot Template)) : List (Slot Template) :=
  ⟨tag, false, .text name⟩ :: slots

/-- A variant. -/
def variantTemplate (tag name : String) (slots : List (Slot Template)) : Template :=
  .record (variantSlots tag name slots)

/-- The fields of a step that looks for a function, with the tag. -/
def functionSlots (name : String) (withVariables : Bool) : List (Slot Template) :=
  variantSlots "kind" "function"
    [⟨"name", false, .text name⟩,
     ⟨"include_variables", withVariables = false, .boolean withVariables⟩]

/-- A step. -/
def Step.template : Step → Template
  | variableNamed name => variantTemplate "kind" "variable" [⟨"name", false, .text name⟩]
  | functionNamed name withVariables => .record (functionSlots name withVariables)
  | typeNamed name => variantTemplate "kind" "type" [⟨"name", false, .text name⟩]
  | interfaceNamed name => variantTemplate "kind" "interface" [⟨"name", false, .text name⟩]
  | classNamed name => variantTemplate "kind" "class" [⟨"name", false, .text name⟩]
  | methodNamed name => variantTemplate "kind" "method" [⟨"name", false, .text name⟩]
  | propertyNamed name => variantTemplate "kind" "property" [⟨"name", false, .text name⟩]
  | parameterAt index => variantTemplate "kind" "parameter" [⟨"index", false, .natural index⟩]
  | conditionalAt index => variantTemplate "kind" "if" [⟨"index", index = 0, .natural index⟩]
  | conditionAt index => variantTemplate "kind" "condition" [⟨"index", false, .natural index⟩]
  | branchAt index => variantTemplate "kind" "branch" [⟨"index", false, .natural index⟩]
  | declaredType => variantTemplate "kind" "annotation" []
  | resultType => variantTemplate "kind" "return-annotation" []
  | body => variantTemplate "kind" "body" []

/-- An expectation. -/
def Expectation.template : Expectation → Template
  | present => variantTemplate "type" "exists" []
  | absent => variantTemplate "type" "absent" []
  | agrees text => variantTemplate "type" "matches" [⟨"text", false, .text text⟩]
  | declaredType text => variantTemplate "type" "annotation" [⟨"text", false, .text text⟩]
  | resultType text => variantTemplate "type" "return-annotation" [⟨"text", false, .text text⟩]
  | members expected =>
      variantTemplate "type" "type-props"
        [⟨"props", false, .list (expected.map ExpectedMember.template)⟩]
  | parameterCount count =>
      variantTemplate "type" "parameter-count" [⟨"count", false, .natural count⟩]
  | callTo callee => variantTemplate "type" "value-call" [⟨"callee", false, .text callee⟩]
  | integer => variantTemplate "type" "integer" []

/-- The fields of a check. -/
def Check.slots (check : Check) : List (Slot Template) :=
  [⟨"id", false, .text check.id⟩,
   ⟨"file", false, .text check.file⟩,
   ⟨"description", check.description = none, .nullable .text check.description⟩,
   ⟨"select", check.select = [], .list (check.select.map Step.template)⟩,
   ⟨"expect", false, check.expect.template⟩]

/-- A check. -/
def Check.template (check : Check) : Template :=
  .record check.slots

/-- The fields of a rubric's metadata. -/
def Metadata.slots (metadata : Metadata) : List (Slot Template) :=
  [⟨"name", metadata.name = "", .text metadata.name⟩,
   ⟨"description", metadata.description = none, .nullable .text metadata.description⟩]

/-- A rubric's metadata. -/
def Metadata.template (metadata : Metadata) : Template :=
  .record metadata.slots

/-- The fields of a rubric; its directory is not written. -/
def Rubric.slots (rubric : Rubric) : List (Slot Template) :=
  [⟨"meta", rubric.metadata = ⟨"", none⟩, rubric.metadata.template⟩,
   ⟨"checks", rubric.checks = [], .list (rubric.checks.map Check.template)⟩]

/-- A rubric. -/
def Rubric.template (rubric : Rubric) : Template :=
  .record rubric.slots

namespace Schema

open Document.Decoder

/-! ## Members -/

theorem reads_member (m : ExpectedMember) : Reads member m.template m := by
  have hname : HasField m.slots "name" false text m.name :=
    ⟨_, by simp [ExpectedMember.slots], reads_text _⟩
  have htype : HasField m.slots "type" (m.type = none) (nullable text) m.type :=
    ⟨_, by simp [ExpectedMember.slots], reads_nullable_text _⟩
  have hoptional : HasField m.slots "optional" (m.optional = none) (nullable boolean) m.optional :=
    ⟨_, by simp [ExpectedMember.slots], reads_nullable_boolean _⟩
  have hnames : (m.slots.map Slot.name).Nodup := by simp [ExpectedMember.slots]
  apply reads_record
  apply readsFields_decode hnames
  · exact fits_cons hname <| fits_cons htype <| fits_cons hoptional (fits_nil _ _)
  · intro entries h
    simp only [h.required_eq hnames _ hname, h.optional_eq hnames _ htype,
      h.optional_eq hnames _ hoptional]
    rfl

/-! ## Variants -/

section Variants

variable {α β : Type} {tag name : String}

theorem reads_variant
    {title : String}
    {variants : List (String × (Fields → Except DecodeError β))}
    {slots : List (Slot Template)}
    {read : Fields → Except DecodeError β}
    {b : β}
    (hnames : ((variantSlots tag name slots).map Slot.name).Nodup)
    (hvariant : variants.lookup name = some read)
    (hread : ReadsFields read (variantSlots tag name slots) b) :
    Reads (variant title tag variants) (variantTemplate tag name slots) b := by
  intro v hv
  cases hv with
  | @record _ _ _ entries hfilled hothers hentries =>
      have h : Template.Layout (.record (variantSlots tag name slots)) (.table entries) :=
        .record hfilled hothers hentries
      have htag : entries.lookup tag = some (.text name) := by
        rcases h.lookup_slot hnames List.mem_cons_self with ⟨v, hlookup, ⟨⟩⟩ | ⟨_, ho⟩
        · exact hlookup
        · cases ho
      have hknown : name ∈ variants.map Prod.fst := by
        obtain ⟨before, after, rfl, _⟩ := List.lookup_eq_some_iff.mp hvariant
        simp
      have htagged :
          tagged title tag (variants.map Prod.fst) (.table entries) =
            .ok (name, .named entries) := by
        simp only [tagged, htag, variantOf, if_pos hknown]
        rfl
      calc
        variant title tag variants (.table entries) = read (.named entries) := by
          simp only [variant, htagged, Except.bind, bind, hvariant]
        _ = .ok b := hread entries h

theorem reads_single
    {kind title label : String}
    {variants : List (String × (Fields → Except DecodeError β))}
    {decode : Decoder α}
    {build : α → β}
    {t : Template}
    {a : α}
    (hvariant : variants.lookup kind = some (single label name decode build))
    (htag : tag ≠ name)
    (hread : Reads decode t a) :
    Reads (variant title tag variants) (variantTemplate tag kind [⟨name, false, t⟩])
      (build a) := by
  have hfield : HasField (variantSlots tag kind [⟨name, false, t⟩]) name false decode a :=
    ⟨t, by simp [variantSlots], hread⟩
  have hnames : ((variantSlots tag kind [⟨name, false, t⟩]).map Slot.name).Nodup := by
    simp [variantSlots, htag]
  apply reads_variant hnames hvariant
  apply readsFields_decode hnames (fits_cons hfield (fits_nil _ _))
  intro entries h
  simp only [h.required_eq hnames _ hfield]
  rfl

theorem reads_singleOr
    {kind title label : String}
    {variants : List (String × (Fields → Except DecodeError β))}
    {decode : Decoder α}
    {build : α → β}
    {t : Template}
    {a default : α}
    [Decidable (a = default)]
    (hvariant : variants.lookup kind = some (singleOr label name decode default build))
    (htag : tag ≠ name)
    (hread : Reads decode t a) :
    Reads (variant title tag variants) (variantTemplate tag kind [⟨name, a = default, t⟩])
      (build a) := by
  have hfield :
      HasField (variantSlots tag kind [⟨name, a = default, t⟩]) name (a = default) decode a :=
    ⟨t, by simp [variantSlots], hread⟩
  have hnames : ((variantSlots tag kind [⟨name, a = default, t⟩]).map Slot.name).Nodup := by
    simp [variantSlots, htag]
  apply reads_variant hnames hvariant
  apply readsFields_decode hnames (fits_cons hfield (fits_nil _ _))
  intro entries h
  simp only [h.optional_eq hnames _ hfield]
  rfl

theorem reads_bare
    {kind title : String}
    {variants : List (String × (Fields → Except DecodeError β))}
    {result : β}
    (hvariant : variants.lookup kind = some (bare result)) :
    Reads (variant title tag variants) (variantTemplate tag kind []) result := by
  have hnames : ((variantSlots tag kind []).map Slot.name).Nodup := List.nodup_singleton tag
  apply reads_variant hnames hvariant
  apply readsFields_decode hnames (fits_nil _ _)
  intro entries h
  rfl

end Variants

/-! ## Steps and expectations -/

theorem reads_functionNamed (name : String) (withVariables : Bool) :
    Reads step (Step.functionNamed name withVariables).template
      (.functionNamed name withVariables) := by
  have hname : HasField (functionSlots name withVariables) "name" false text name :=
    ⟨_, by simp [functionSlots, variantSlots], reads_text _⟩
  have hvariables :
      HasField (functionSlots name withVariables) "include_variables" (withVariables = false)
        boolean withVariables :=
    ⟨_, by simp [functionSlots, variantSlots], reads_boolean _⟩
  have hnames : ((functionSlots name withVariables).map Slot.name).Nodup := by
    simp [functionSlots, variantSlots]
  apply reads_variant hnames rfl
  apply readsFields_decode hnames
  · exact fits_cons hname <| fits_cons hvariables (fits_nil _ _)
  · intro entries h
    simp only [h.required_eq hnames _ hname, h.optional_eq hnames _ hvariables]
    rfl

theorem reads_step (s : Step) : Reads step s.template s := by
  cases s with
  | functionNamed name withVariables => exact reads_functionNamed name withVariables
  | conditionalAt index => exact reads_singleOr rfl (by decide) (reads_natural index)
  | parameterAt index | conditionAt index | branchAt index =>
      exact reads_single rfl (by decide) (reads_natural index)
  | declaredType | resultType | body => exact reads_bare rfl
  | variableNamed name | typeNamed name | interfaceNamed name | classNamed name
  | methodNamed name | propertyNamed name =>
      exact reads_single rfl (by decide) (reads_text name)

theorem reads_expectation (e : Expectation) : Reads expectation e.template e := by
  cases e with
  | present | absent | integer => exact reads_bare rfl
  | agrees text | declaredType text | resultType text | callTo text =>
      exact reads_single rfl (by decide) (reads_text text)
  | parameterCount count => exact reads_single rfl (by decide) (reads_natural count)
  | members expected =>
      exact reads_single rfl (by decide) (reads_list fun m _ => reads_member m)

/-! ## Checks and rubrics -/

theorem reads_check (format : Format) (c : Check) : Reads (check format) c.template c := by
  have hid : HasField c.slots "id" false text c.id :=
    ⟨_, by simp [Check.slots], reads_text _⟩
  have hfile : HasField c.slots "file" false text c.file :=
    ⟨_, by simp [Check.slots], reads_text _⟩
  have hdescription :
      HasField c.slots "description" (c.description = none) (nullable text) c.description :=
    ⟨_, by simp [Check.slots], reads_nullable_text _⟩
  have hselect : HasField c.slots "select" (c.select = []) (list step) c.select :=
    ⟨_, by simp [Check.slots], reads_list fun s _ => reads_step s⟩
  have hexpect : HasField c.slots "expect" false expectation c.expect :=
    ⟨_, by simp [Check.slots], reads_expectation _⟩
  have hnames : (c.slots.map Slot.name).Nodup := by simp [Check.slots]
  apply reads_record
  apply readsFields_decode hnames
  · exact fits_cons hid <| fits_cons hfile <| fits_cons hdescription <| fits_cons hselect <|
      fits_cons hexpect (fits_nil _ _)
  · intro entries h
    simp only [h.required_eq hnames _ hid, h.required_eq hnames _ hfile,
      h.optional_eq hnames _ hdescription, h.optional_eq hnames _ hselect,
      h.required_eq hnames _ hexpect]
    rfl

theorem reads_metadata (format : Format) (m : Metadata) :
    Reads (metadata format) m.template m := by
  have hname : HasField m.slots "name" (m.name = "") text m.name :=
    ⟨_, by simp [Metadata.slots], reads_text _⟩
  have hdescription :
      HasField m.slots "description" (m.description = none) (nullable text) m.description :=
    ⟨_, by simp [Metadata.slots], reads_nullable_text _⟩
  have hnames : (m.slots.map Slot.name).Nodup := by simp [Metadata.slots]
  apply reads_record
  apply readsFields_decode hnames
  · exact fits_cons hname <| fits_cons hdescription (fits_nil _ _)
  · intro entries h
    simp only [h.optional_eq hnames _ hname, h.optional_eq hnames _ hdescription]
    rfl

/-- The directory is no part of the document. -/
theorem reads_rubric (format : Format) (r : Rubric) :
    Reads (rubric format) r.template { r with directory := none } := by
  have hmetadata :
      HasField r.slots "meta" (r.metadata = ⟨"", none⟩) (metadata format) r.metadata :=
    ⟨_, by simp [Rubric.slots], reads_metadata format _⟩
  have hchecks : HasField r.slots "checks" (r.checks = []) (list (check format)) r.checks :=
    ⟨_, by simp [Rubric.slots], reads_list fun c _ => reads_check format c⟩
  have hnames : (r.slots.map Slot.name).Nodup := by simp [Rubric.slots]
  apply reads_record
  apply readsFields_decode hnames
  · exact fits_cons hmetadata <| fits_cons hchecks (fits_nil _ _)
  · intro entries h
    simp only [h.optional_eq hnames _ hmetadata, h.optional_eq hnames _ hchecks]
    rfl

/-- The schema finds a rubric in every layout of its document, of which the full one is an example. -/
theorem rubric_of_layout
    (format : Format)
    (r : Rubric)
    (hdirectory : r.directory = none) :
    r.template.Layout r.template.full ∧
      ∀ document, r.template.Layout document → rubric format document = .ok r := by
  refine ⟨r.template.layout_full, fun document h => ?_⟩
  rw [reads_rubric format r document h, ← hdirectory]

/-- A check in which most fields equal their defaults. -/
def terseCheck : Check :=
  ⟨"shape", "a.ts", none, [.functionNamed "area" false, .conditionalAt 0],
    .members [⟨"x", none, some true⟩]⟩

def tersePlan : Rubric :=
  ⟨⟨"", none⟩, [terseCheck], none⟩

/-- The check with its defaults left out, the tags last and a few unknown keys. -/
def terseEntry : Value :=
  .table
    [("expect", .table
       [("kind", .text "variable"),
        ("props", .list [.table [("optional", .boolean true), ("name", .text "x")]]),
        ("type", .text "type-props")]),
     ("select", .list
       [.table [("name", .text "area"), ("kind", .text "function")],
        .table [("type", .moment), ("name", .null), ("kind", .text "if")]]),
     ("file", .text "a.ts"),
     ("id", .text "shape")]

def terseDocument : Value :=
  .table [("version", .integer 3), ("checks", .list [terseEntry])]

theorem tersePlan_of_terseDocument :
    tersePlan.directory = none ∧
      tersePlan.template.Layout terseDocument ∧
      rubric .toml terseDocument = .ok tersePlan := by
  have hmember :
      (ExpectedMember.template ⟨"x", none, some true⟩).Layout
        (.table [("optional", .boolean true), ("name", .text "x")]) :=
    .record (.write (.plain _) (.leave rfl (.write (.plain _) .nil)))
      (List.forall_mem_nil _) (List.reverse_perm _).symm
  have hexpect :
      (Expectation.members [⟨"x", none, some true⟩]).template.Layout
        (.table
          [("kind", .text "variable"),
           ("props", .list [.table [("optional", .boolean true), ("name", .text "x")]]),
           ("type", .text "type-props")]) :=
    .record (.write (.plain _) (.write (.list (.cons hmember .nil)) .nil))
      (List.forall_mem_singleton.mpr (by decide)) (List.reverse_perm _).symm
  have hfunction :
      (Step.functionNamed "area" false).template.Layout
        (.table [("name", .text "area"), ("kind", .text "function")]) :=
    .record (.write (.plain _) (.write (.plain _) (.leave rfl .nil)))
      (List.forall_mem_nil _) (List.reverse_perm _).symm
  have hconditional :
      (Step.conditionalAt 0).template.Layout
        (.table [("type", .moment), ("name", .null), ("kind", .text "if")]) :=
    .record (.write (.plain _) (.leave rfl .nil))
      (List.forall_mem_cons.mpr ⟨by decide, List.forall_mem_singleton.mpr (by decide)⟩)
      (List.reverse_perm _).symm
  have hcheck : terseCheck.template.Layout terseEntry :=
    .record
      (.write (.plain _) (.write (.plain _) (.leave rfl
        (.write (.list (.cons hfunction (.cons hconditional .nil))) (.write hexpect .nil)))))
      (List.forall_mem_nil _) (List.reverse_perm _).symm
  have hdocument : tersePlan.template.Layout terseDocument :=
    .record (.leave rfl (.write (.list (.cons hcheck .nil)) .nil))
      (List.forall_mem_singleton.mpr (by decide)) (List.reverse_perm _).symm
  exact ⟨rfl, hdocument, (rubric_of_layout .toml tersePlan rfl).2 _ hdocument⟩

end Schema
end SnippetRubric
