import SnippetRubric.Proofs.Simulation.Displaced
import SnippetRubric.Proofs.Simulation.Handle

/-!
# Members of types

Whether a declared type has a member is decided in two steps.  The type literal that the declaration
carries is found (`Handle.typeLiteral?`), and then its first member of the name is held against what
is expected.  The second step sees nothing of the declaration (`Handle.hasMember_eq_any`).

What is expected of a member falls into its type and its question mark, and both are read from one
and the same member (`Handle.hasMember_eq_and`, `Handle.hasMember_flag`).

A variable, a declarator, a parameter and a type alias carry the literal of their declared type
(`Handle.typeLiteral?_declaredType`), and of a literal only the children count
(`Handle.hasMember_eq_of_children`).  The main statement is `Handle.members_alike_in_containers`: the
same members are found in every container.
-/

namespace SnippetRubric
namespace Tree

/-- The first member of a type literal that goes by a name. -/
def memberNamed? (literal : Node) (name : String) : Option Node :=
  literal.literalMembers.find? fun member => member.declaredName? == some name

/-- Whether the node is a variable statement, a declarator, a parameter or a type alias. -/
def declaresType (n : Node) : Bool :=
  n.shape == .variableStatement || n.shape == .declarator || n.shape == .parameter ||
    n.shape == .typeAlias

/-- An interface with a body that lists members. -/
structure InterfaceBody (n body : Node) : Prop where
  isInterface : n.shape = .interface
  child : n.child? "body" = some body
  isLiteral : body.shape = .typeLiteral

section Literals

variable {n t body : Node}

theorem literalCandidate?_of_declaresType
    (h : n.declaresType = true) :
    n.literalCandidate? = n.declaredType? := by
  have hcases :
      n.shape = .variableStatement ∨ n.shape = .declarator ∨ n.shape = .parameter ∨
        n.shape = .typeAlias := by
    simpa [declaresType, or_assoc] using h
  rcases hcases with h | h | h | h
  · simp [literalCandidate?, declaredType?, h]
  · simp [literalCandidate?, declaredType?, h]
  · simp [literalCandidate?, declaredType?, h]
  · simp [literalCandidate?, declaredType?, h]

theorem typeLiteral?_of_shape
    (h : t.shape = .typeLiteral) :
    t.typeLiteral? = some t := by
  simp [typeLiteral?, literalCandidate?, h]

theorem typeLiteral?_of_other
    (h : t.shape = .other) :
    t.typeLiteral? = none := by
  simp [typeLiteral?, literalCandidate?, h]

/-- A declaration carries the literal that its declared type is, if that is one. -/
theorem typeLiteral?_eq_bind_declaredType?
    (hdeclares : n.declaresType = true)
    (htype : ∀ t, n.declaredType? = some t → t.shape = .typeLiteral ∨ t.shape = .other) :
    n.typeLiteral? = n.declaredType?.bind typeLiteral? := by
  rw [typeLiteral?, literalCandidate?_of_declaresType hdeclares]
  cases ht : n.declaredType? with
  | none =>
      rfl
  | some t =>
      rw [Option.bind_some]
      rcases htype t ht with hshape | hshape
      · rw [typeLiteral?_of_shape hshape, Option.filter_some_pos (by simp [hshape])]
      · rw [typeLiteral?_of_other hshape, Option.filter_some_neg (by simp [hshape])]

/-- An interface carries its body. -/
theorem InterfaceBody.typeLiteral?
    (h : n.InterfaceBody body) :
    n.typeLiteral? = some body := by
  simp [Tree.typeLiteral?, literalCandidate?, h.isInterface, h.child, h.isLiteral]

end Literals
end Tree

namespace Handle

/-- The type literal that the declaration of a handle carries. -/
def typeLiteral? (h : Handle) : Option Node :=
  h.focus.bind Tree.typeLiteral?

section Checks

variable (h : Handle) (parse : Parser) (name : String) (type : Option String)

/-- Of a declaration only its type literal counts, and of the literal the first member of the
name. -/
theorem hasMember_eq_any
    (expected : ExpectedMember) :
    h.hasMember parse expected =
      (h.typeLiteral?.bind (·.memberNamed? expected.name)).any fun member =>
        memberHasType parse member expected.type &&
          memberIsOptional member expected.optional := by
  rw [typeLiteral?, Option.bind_assoc]
  rfl

/-- A member has a type and a question mark as expected when it has the type, and the question
mark. -/
theorem hasMember_eq_and
    (optional : Option Bool) :
    h.hasMember parse ⟨name, type, optional⟩ =
      (h.hasMember parse ⟨name, type, none⟩ && h.hasMember parse ⟨name, none, optional⟩) := by
  simp only [hasMember_eq_any]
  cases h.typeLiteral?.bind (·.memberNamed? name) with
  | none =>
      rfl
  | some member =>
      simp [memberHasType, memberIsOptional]

/-- A member that is there either may be left out or may not. -/
theorem hasMember_flag
    (hmember : h.hasMember parse ⟨name, type, none⟩ = true) :
    h.hasMember parse ⟨name, type, some true⟩ = !h.hasMember parse ⟨name, type, some false⟩ := by
  simp only [hasMember_eq_any] at hmember ⊢
  cases hfirst : h.typeLiteral?.bind (·.memberNamed? name) with
  | none =>
      rw [hfirst] at hmember
      cases hmember
  | some member =>
      have htype : memberHasType parse member type = true := by
        simpa [hfirst, memberIsOptional] using hmember
      simp [htype, memberIsOptional]

end Checks

section Containers

variable {h k : Handle} {n : Node}

/-- A declaration and the handle on its declared type carry the same literal. -/
theorem typeLiteral?_declaredType
    (hfocus : h.focus = some n)
    (hdeclares : n.declaresType = true)
    (htype : ∀ t, h.declaredType.node = some t → t.shape = .typeLiteral ∨ t.shape = .other) :
    h.declaredType.typeLiteral? = h.typeLiteral? := by
  have hnode : h.declaredType.node = n.declaredType? := by
    rw [declaredType, hfocus]
    rfl
  have hdeclared : h.declaredType.focus = n.declaredType? := hnode
  rw [hnode] at htype
  rw [typeLiteral?, typeLiteral?, hdeclared, hfocus, Option.bind_some,
    Tree.typeLiteral?_eq_bind_declaredType? hdeclares htype]

/-- Literals with the same children, at other places perhaps, have the same members. -/
theorem hasMember_eq_of_children
    {a b : Node}
    (ha : h.typeLiteral? = some a)
    (hb : k.typeLiteral? = some b)
    (hchildren : List.Forall₂ Tree.Displaced a.children b.children)
    (parse : Parser)
    (expected : ExpectedMember) :
    h.hasMember parse expected = k.hasMember parse expected := by
  have sim := Tree.pointwise_displaced.simulation
  have hmembers := Tree.pointwise_displaced.literalMembers_of_children hchildren
  have hfirst :
      Option.Rel Tree.Displaced (a.memberNamed? expected.name) (b.memberNamed? expected.name) :=
    hmembers.find? fun _ _ hcd => by rw [sim.declaredName_eq hcd]
  rw [hasMember_eq_any, hasMember_eq_any, ha, hb]
  refine hfirst.any_eq fun c d hcd => ?_
  rw [sim.memberHasType_eq hcd, sim.memberIsOptional_eq hcd]

/-- A variable, a declarator, a parameter or a type alias has the members of its declared type, and
none without one.  An interface has the same members where the declared type is an object type with
the children of the interface's body. -/
theorem members_alike_in_containers
    (parse : Parser)
    (h : Handle)
    (n : Node)
    (hfocus : h.focus = some n)
    (hdeclares : n.declaresType = true)
    (htype : ∀ t, h.declaredType.node = some t → t.shape = .typeLiteral ∨ t.shape = .other) :
    (∀ expected, h.hasMember parse expected = h.declaredType.hasMember parse expected) ∧
    (h.declaredType.isEmpty = true → ∀ expected, h.hasMember parse expected = false) ∧
    ∀ (i : Handle) (interface body t : Node),
      i.focus = some interface →
        interface.InterfaceBody body →
          h.declaredType.node = some t →
            t.kind = "object_type" →
              List.Forall₂ Tree.Displaced body.children t.children →
                ∀ expected, i.hasMember parse expected = h.hasMember parse expected := by
  have hliteral := typeLiteral?_declaredType hfocus hdeclares htype
  refine ⟨fun expected => ?_, fun hempty expected => ?_, ?_⟩
  · rw [hasMember_eq_any, hasMember_eq_any, hliteral]
  · have hnone : h.declaredType.focus = none := Option.isNone_iff_eq_none.mp hempty
    rw [typeLiteral?, hnone] at hliteral
    rw [hasMember_eq_any, ← hliteral]
    rfl
  · intro i interface body t hinterface hbody ht hkind hchildren expected
    have hshape : t.shape = .typeLiteral := by
      rw [Tree.shape, hkind]
      rfl
    have hdeclared : h.declaredType.focus = some t := ht
    have hi : i.typeLiteral? = some body := by
      rw [typeLiteral?, hinterface, Option.bind_some, hbody.typeLiteral?]
    have hh : h.typeLiteral? = some t := by
      rw [← hliteral, typeLiteral?, hdeclared, Option.bind_some, Tree.typeLiteral?_of_shape hshape]
    exact hasMember_eq_of_children hi hh hchildren parse expected

end Containers

section Samples

/-- A type literal with one member. -/
def literalText : String := "\x7b x?: number \x7d"

/-- The source of an interface with the literal as its body. -/
def interfaceText : String := "interface P " ++ literalText

/-- The source of a variable with the literal as its type. -/
def variableText : String := "let q: " ++ literalText

/-- What stands in the literal, braces included, as a parser sees it at the start of a text. -/
def memberSample : List ParseTree :=
  [.node ⟨"\x7b", none, false, false, ⟨0, 1⟩⟩ [],
   .node ⟨"property_signature", none, true, false, ⟨2, 12⟩⟩
    [.node ⟨"property_identifier", some "name", true, false, ⟨2, 3⟩⟩ [],
     .node ⟨"?", none, false, false, ⟨3, 4⟩⟩ [],
     .node ⟨"type_annotation", some "type", true, false, ⟨4, 12⟩⟩
      [.node ⟨":", none, false, false, ⟨4, 5⟩⟩ [],
       .node ⟨"predefined_type", none, true, false, ⟨6, 12⟩⟩
        [.node ⟨"number", none, false, false, ⟨6, 12⟩⟩ []]]],
   .node ⟨"\x7d", none, false, false, ⟨13, 14⟩⟩ []]

/-- The literal as the body of the interface. -/
def bodySample : ParseTree :=
  .node ⟨"interface_body", some "body", true, false, ⟨12, 26⟩⟩
    (memberSample.map (·.shifted 12))

/-- The literal as the type of the variable. -/
def objectTypeSample : ParseTree :=
  .node ⟨"object_type", none, true, false, ⟨7, 21⟩⟩ (memberSample.map (·.shifted 7))

/-- The interface as a parser sees it. -/
def interfaceSample : ParseTree :=
  .node ⟨"interface_declaration", none, true, false, ⟨0, 26⟩⟩
    [.node ⟨"interface", none, false, false, ⟨0, 9⟩⟩ [],
     .node ⟨"type_identifier", some "name", true, false, ⟨10, 11⟩⟩ [],
     bodySample]

/-- A variable with a type as a parser sees it. -/
def typedVariableSample (colon stop : Nat) (type : ParseTree) : ParseTree :=
  .node ⟨"lexical_declaration", none, true, false, ⟨0, stop⟩⟩
    [.node ⟨"let", some "kind", false, false, ⟨0, 3⟩⟩ [],
     .node ⟨"variable_declarator", none, true, false, ⟨4, stop⟩⟩
      [.node ⟨"identifier", some "name", true, false, ⟨4, 5⟩⟩ [],
       .node ⟨"type_annotation", some "type", true, false, ⟨colon, stop⟩⟩
        [.node ⟨":", none, false, false, ⟨colon, colon + 1⟩⟩ [], type]]]

/-- A parser that knows the interface, the variable, and the type `number` in its host. -/
def memberParser : Parser := fun text =>
  .node ⟨"program", none, true, false, ⟨0, text.utf8ByteSize⟩⟩
    [if text = interfaceText then interfaceSample
     else if text = variableText then typedVariableSample 5 21 objectTypeSample
     else
      typedVariableSample 6 14
        (.node ⟨"predefined_type", none, true, false, ⟨8, 14⟩⟩
          [.node ⟨"number", none, false, false, ⟨8, 14⟩⟩ []])]

theorem displaced_memberSample :
    List.Forall₂ Tree.Displaced (bodySample.excerpted interfaceText).children
      (objectTypeSample.excerpted variableText).children := by
  have hbody : (bodySample.excerpted interfaceText).children.map Tree.unplaced =
      (memberSample.map (·.excerpted literalText)).map Tree.unplaced :=
    Tree.forall₂_displaced_iff.mp
      (Tree.forall₂_displaced_shifted "interface P " literalText (by decide) _ memberSample)
  have htype : (objectTypeSample.excerpted variableText).children.map Tree.unplaced =
      (memberSample.map (·.excerpted literalText)).map Tree.unplaced :=
    Tree.forall₂_displaced_iff.mp
      (Tree.forall₂_displaced_shifted "let q: " literalText (by decide) _ memberSample)
  exact Tree.forall₂_displaced_iff.mpr (hbody.trans htype.symm)

/-- The interface and the variable have the same members, and so has the type of the variable. -/
theorem members_alike_of_memberSample :
    (∀ expected,
      (ofSource memberParser variableText).hasMember memberParser expected =
        (ofSource memberParser variableText).declaredType.hasMember memberParser expected) ∧
    (∀ expected,
      (ofSource memberParser interfaceText).hasMember memberParser expected =
        (ofSource memberParser variableText).hasMember memberParser expected) ∧
    (ofSource memberParser interfaceText).hasMember memberParser
      ⟨"x", some "number", some true⟩ = true := by
  have htype : ∀ t, (ofSource memberParser variableText).declaredType.node = some t →
      t.shape = .typeLiteral ∨ t.shape = .other := by
    intro t ht
    obtain rfl : objectTypeSample.excerpted variableText = t := Option.some.inj ht
    exact Or.inl (by decide)
  obtain ⟨hsame, _, hinterface⟩ :=
    members_alike_in_containers memberParser (ofSource memberParser variableText) _ rfl
      (by decide) htype
  refine ⟨hsame, ?_, by decide⟩
  exact hinterface (ofSource memberParser interfaceText) _ (bodySample.excerpted interfaceText)
    (objectTypeSample.excerpted variableText) rfl ⟨by decide, rfl, by decide⟩ rfl rfl
    displaced_memberSample

end Samples
end Handle
end SnippetRubric
