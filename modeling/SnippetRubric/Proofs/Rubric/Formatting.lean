import SnippetRubric.Proofs.Handle.Source
import SnippetRubric.Proofs.Simulation.Handle
import SnippetRubric.Proofs.Tree.Layout

/-!
# Verdicts do not depend on formatting

A check is evaluated on the handle of a source, which is on the only statement of the program or on
the program itself.  Programs that are equal up to layout have related handles
(`LayoutRel.handleRel_ofSource`), and no check can tell these apart.

The main statement is `Check.evaluate_passed_iff_of_equalUpToLayout`: a check passes on both of two
sources that are equal up to layout, or on neither.
-/

namespace SnippetRubric

/-- Sources that are equal up to layout have related handles. -/
theorem LayoutRel.handleRel_ofSource
    {parse : Parser}
    {source₁ source₂ : String}
    {root₁ root₂ : Node}
    (hblank₁ : Text.isBlank source₁ = false)
    (hblank₂ : Text.isBlank source₂ = false)
    (hcopy₁ : (parse source₁).copy source₁ = .ok root₁)
    (hcopy₂ : (parse source₂).copy source₂ = .ok root₂)
    (hroot : LayoutRel root₁ root₂) :
    HandleRel LayoutRel (Handle.ofSource parse source₁) (Handle.ofSource parse source₂) where
  node := by
    rw [Handle.node_ofSource_of_copy hblank₁ hcopy₁, Handle.node_ofSource_of_copy hblank₂ hcopy₂]
    have hsingle := Tree.singleStatement_rel (LayoutRel.simulation.statements hroot)
    exact .some (hsingle.getD hroot)
  context := rfl
  binding := .none

namespace Check

/-- A check passes on both of two sources that are equal up to layout, or on neither. -/
theorem evaluate_passed_iff_of_equalUpToLayout
    (parse : Parser)
    (source₁ source₂ : String)
    (root₁ root₂ : Node)
    (hblank₁ : Text.isBlank source₁ = false)
    (hblank₂ : Text.isBlank source₂ = false)
    (hcopy₁ : (parse source₁).copy source₁ = .ok root₁)
    (hcopy₂ : (parse source₂).copy source₂ = .ok root₂)
    (hequal : root₁.EqualUpToLayout root₂)
    (htypes₁ : root₁.TypesUncommented)
    (htypes₂ : root₂.TypesUncommented)
    (check : Check) :
    check.evaluate parse source₁ = .passed ↔ check.evaluate parse source₂ = .passed := by
  have hroot : LayoutRel root₁ root₂ := ⟨hequal, htypes₁, htypes₂⟩
  exact LayoutRel.simulation.evaluate_passed_iff
    (LayoutRel.handleRel_ofSource hblank₁ hblank₂ hcopy₁ hcopy₂ hroot) check

section Samples

/-- A leaf of a parse tree. -/
def leafSample (kind : String) (field : Option String) (named : Bool) (span : Span) : ParseTree :=
  .node ⟨kind, field, named, false, span⟩ []

/-- The program `let x: number;` as a parser sees it. -/
def compactSample : ParseTree :=
  .node ⟨"program", none, true, false, ⟨0, 14⟩⟩
    [.node ⟨"lexical_declaration", none, true, false, ⟨0, 14⟩⟩
      [leafSample "let" (some "kind") false ⟨0, 3⟩,
       .node ⟨"variable_declarator", none, true, false, ⟨4, 13⟩⟩
        [leafSample "identifier" (some "name") true ⟨4, 5⟩,
         .node ⟨"type_annotation", some "type", true, false, ⟨5, 13⟩⟩
          [leafSample ":" none false ⟨5, 6⟩,
           .node ⟨"predefined_type", none, true, false, ⟨7, 13⟩⟩
            [leafSample "number" none false ⟨7, 13⟩]]],
       leafSample ";" none false ⟨13, 14⟩]]

/-- The program `/* n */ let x : number` as a parser sees it. -/
def spaciousSample : ParseTree :=
  .node ⟨"program", none, true, false, ⟨0, 22⟩⟩
    [leafSample "comment" none true ⟨0, 7⟩,
     .node ⟨"lexical_declaration", none, true, false, ⟨8, 22⟩⟩
      [leafSample "let" (some "kind") false ⟨8, 11⟩,
       .node ⟨"variable_declarator", none, true, false, ⟨12, 22⟩⟩
        [leafSample "identifier" (some "name") true ⟨12, 13⟩,
         .node ⟨"type_annotation", some "type", true, false, ⟨14, 22⟩⟩
          [leafSample ":" none false ⟨14, 15⟩,
           .node ⟨"predefined_type", none, true, false, ⟨16, 22⟩⟩
            [leafSample "number" none false ⟨16, 22⟩]]]]]

/-- A parser that knows the two programs. -/
def sampleParser : Parser := fun text =>
  if text = "let x: number;" then compactSample else spaciousSample

theorem equalUpToLayout_samples :
    (compactSample.excerpted "let x: number;").EqualUpToLayout
      (spaciousSample.excerpted "/* n */ let x : number") := by
  have hlet :
      Span.slice "let x: number;" ⟨0, 3⟩ = Span.slice "/* n */ let x : number" ⟨8, 11⟩ := by
    decide
  have hname :
      Span.slice "let x: number;" ⟨4, 5⟩ = Span.slice "/* n */ let x : number" ⟨12, 13⟩ := by
    decide
  have hcolon :
      Span.slice "let x: number;" ⟨5, 6⟩ = Span.slice "/* n */ let x : number" ⟨14, 15⟩ := by
    decide
  have htype :
      Span.slice "let x: number;" ⟨7, 13⟩ = Span.slice "/* n */ let x : number" ⟨16, 22⟩ := by
    decide
  simp [compactSample, spaciousSample, leafSample, ParseTree.excerpted, Tree.map, Tree.mapAll,
    Mark.excerpt, Tree.equalUpToLayout_node, Tree.isLayout, Tree.textCounts,
    Tree.structuralChildren, Tree.isStructural, Tree.kind, Tree.field, Tree.named, readFields,
    hlet, hname, hcolon, htype]

theorem typesUncommented_compactSample :
    (compactSample.excerpted "let x: number;").TypesUncommented := by
  simp [compactSample, leafSample, ParseTree.excerpted, Tree.map, Tree.mapAll, Mark.excerpt,
    Tree.typesUncommented_node, Tree.isComment, Tree.kind]

theorem typesUncommented_spaciousSample :
    (spaciousSample.excerpted "/* n */ let x : number").TypesUncommented := by
  simp [spaciousSample, leafSample, ParseTree.excerpted, Tree.map, Tree.mapAll, Mark.excerpt,
    Tree.typesUncommented_node, Tree.isComment, Tree.kind]

/-- The variable has a declared type in the second program because it has one in the first. -/
theorem evaluate_passed_of_compactSample :
    (sampleCheck [.variableNamed "x", .declaredType] .present).evaluate sampleParser
        "let x: number;" = .passed ∧
      (sampleCheck [.variableNamed "x", .declaredType] .present).evaluate sampleParser
        "/* n */ let x : number" = .passed := by
  have hpassed :
      (sampleCheck [.variableNamed "x", .declaredType] .present).evaluate sampleParser
        "let x: number;" = .passed := by
    decide
  refine ⟨hpassed, ?_⟩
  exact (evaluate_passed_iff_of_equalUpToLayout sampleParser "let x: number;"
    "/* n */ let x : number" _ _ (by decide) (by decide) rfl rfl equalUpToLayout_samples
    typesUncommented_compactSample typesUncommented_spaciousSample _).mp hpassed

end Samples

end Check
end SnippetRubric
