import SnippetRubric.Proofs.Fragment.Reading
import SnippetRubric.Proofs.Handle.Source
import SnippetRubric.Proofs.Handle.TopLevel
import SnippetRubric.Proofs.Tree.NormalForm

/-!
# Matching texts with texts

A text that is compared with a handle is read and then aligned: where the handle is not on an
expression statement and the text is one, the expression in front of the text counts.  The alignment
is not symmetric.  It is of no consequence where the handle is on a node of another kind than the
expression (`Handle.agree_aligned`), and so is the handle of every text when statements and
expressions have different kinds (`Handle.KindsApart`).

Two texts then match when their handles have the same normal form, or both have none.  The main
statement is `Handle.agreesWithText_equivalence`.
-/

namespace SnippetRubric

theorem agree_eq_false_of_kind_ne
    {a b : Node}
    (hkind : a.kind ≠ b.kind) :
    agree (some a) (some b) = false := by
  simp [agree, Tree.agrees, Tree.agreesWithin, hkind]

namespace Handle

/-- The node that a text is read as never has the kind of the expression in front of an expression
statement that a text is read as. -/
def KindsApart (parse : Parser) : Prop :=
  ∀ (s t : String) (a b expression : Node),
    (ofSource parse s).node = some a →
      (ofSource parse t).node = some b →
        b.kind = "expression_statement" →
          b.firstNamed? = some expression →
            a.kind ≠ expression.kind

/-- Alignment does not help a node to agree that has another kind than the expression. -/
theorem agree_aligned
    {target parsed : Option Node}
    (hkinds : ∀ a b expression,
      target = some a →
        parsed = some b →
          b.kind = "expression_statement" →
            b.firstNamed? = some expression →
              a.kind ≠ expression.kind) :
    agree target (aligned target parsed) = agree target parsed := by
  cases target with
  | none =>
      rfl
  | some a =>
      cases parsed with
      | none =>
          rfl
      | some b =>
          rw [aligned]
          split
          · rename_i hstatement
            have hstatements : agree (some a) (some b) = false := by
              apply agree_eq_false_of_kind_ne
              rw [hstatement.1]
              exact hstatement.2
            rw [hstatements]
            cases hexpression : b.firstNamed? with
            | none =>
                rfl
            | some expression =>
                exact agree_eq_false_of_kind_ne
                  (hkinds a b expression rfl rfl hstatement.1 hexpression)
          · rfl

section Sources

variable {parse : Parser} {s t : String}

/-- Nothing can be asked of a text just when it is blank or nests too deeply. -/
theorem isEmpty_ofSource_iff :
    (ofSource parse s).isEmpty = true ↔
      Text.isBlank s = true ∨ maxDepth < (parse s).height := by
  cases hblank : Text.isBlank s with
  | true =>
      simp [ofSource, inContext, ofNode?, isEmpty, FragmentContext.read, hblank]
  | false =>
      by_cases hheight : (parse s).height ≤ maxDepth
      · have hnode := node_ofSource hblank hheight
        simp [isEmpty, hnode, hheight]
      · have hdeep := Nat.lt_of_not_le hheight
        simp [isEmpty_ofSource_of_tooDeep hblank hdeep, hdeep]

theorem agreesWithText_ofSource
    (hapart : KindsApart parse) :
    (ofSource parse s).agreesWithText parse t = (ofSource parse s).agreesWith (ofSource parse t) :=
  agree_aligned fun a b expression ha hb => hapart s t a b expression ha hb

/-- Two texts agree when their handles have the same normal form, or none. -/
theorem agreesWith_ofSource_iff :
    (ofSource parse s).agreesWith (ofSource parse t) = true ↔
      (ofSource parse s).node.map Tree.normalForm =
        (ofSource parse t).node.map Tree.normalForm :=
  agree_iff_map_normalForm_eq (fun _ => FragmentContext.copied_of_read) _

end Sources

/-- Matching texts with texts is matching their handles, which is equality of normal forms: an
equivalence relation.  A text that is blank or nests too deeply matches the texts that are or do so
as well, and no other. -/
theorem agreesWithText_equivalence
    (parse : Parser)
    (hapart : KindsApart parse) :
    (∀ s t,
      (ofSource parse s).agreesWithText parse t =
        (ofSource parse s).agreesWith (ofSource parse t)) ∧
    (∀ s t,
      (ofSource parse s).agreesWithText parse t = true ↔
        (ofSource parse s).node.map Tree.normalForm =
          (ofSource parse t).node.map Tree.normalForm) ∧
    (Equivalence fun s t => (ofSource parse s).agreesWithText parse t = true) ∧
    ∀ s, Text.isBlank s = true ∨ maxDepth < (parse s).height →
      ∀ t,
        (ofSource parse s).agreesWithText parse t = true ↔
          Text.isBlank t = true ∨ maxDepth < (parse t).height := by
  have hhandles : ∀ s t,
      (ofSource parse s).agreesWithText parse t =
        (ofSource parse s).agreesWith (ofSource parse t) :=
    fun _ _ => agreesWithText_ofSource hapart
  have hforms : ∀ s t,
      (ofSource parse s).agreesWithText parse t = true ↔
        (ofSource parse s).node.map Tree.normalForm =
          (ofSource parse t).node.map Tree.normalForm := by
    intro s t
    rw [hhandles, agreesWith_ofSource_iff]
  refine ⟨hhandles, hforms, ?_, ?_⟩
  · constructor
    · intro s
      exact (hforms s s).mpr rfl
    · intro s t hst
      exact (hforms t s).mpr ((hforms s t).mp hst).symm
    · intro s t u hst htu
      exact (hforms s u).mpr (((hforms s t).mp hst).trans ((hforms t u).mp htu))
  · intro s hs t
    have hnone : (ofSource parse s).node = none :=
      Option.isNone_iff_eq_none.mp (isEmpty_ofSource_iff.mpr hs)
    rw [hforms, hnone, ← isEmpty_ofSource_iff, isEmpty, Option.map_none, eq_comm,
      Option.map_eq_none_iff, Option.isNone_iff_eq_none]

section Samples

/-- A parser that knows `let a;` and `x;`, and reads any other text as a name. -/
def statementParser : Parser := fun text =>
  if text = "let a;" then programSample 6 [letSample 0]
  else if text = "x;" then programSample 2 [semicolonSample]
  else programSample 1 [nameSample 0]

/-- The statements of the sample and the nodes in front of them have different kinds. -/
theorem kinds_of_statementParser
    {s : String}
    {n : Node}
    (hnode : (ofSource statementParser s).node = some n) :
    (n.kind = "lexical_declaration" ∨ n.kind = "expression_statement") ∧
      ∀ c, n.firstNamed? = some c → c.kind = "variable_declarator" ∨ c.kind = "identifier" := by
  obtain ⟨_, _, hextract⟩ := FragmentContext.read_eq_some_iff.mp hnode
  by_cases hlet : s = "let a;"
  · rw [FragmentContext.embed, statementParser, if_pos hlet] at hextract
    obtain rfl : (letSample 0).excerpted s = n := Option.some.inj hextract
    refine ⟨Or.inl rfl, ?_⟩
    rintro c ⟨⟩
    exact Or.inl rfl
  · by_cases hname : s = "x;"
    · rw [FragmentContext.embed, statementParser, if_neg hlet, if_pos hname] at hextract
      obtain rfl : semicolonSample.excerpted s = n := Option.some.inj hextract
      refine ⟨Or.inr rfl, ?_⟩
      rintro c ⟨⟩
      exact Or.inr rfl
    · rw [FragmentContext.embed, statementParser, if_neg hlet, if_neg hname] at hextract
      obtain rfl : (nameSample 0).excerpted s = n := Option.some.inj hextract
      refine ⟨Or.inr rfl, ?_⟩
      rintro c ⟨⟩
      exact Or.inr rfl

theorem kindsApart_statementParser : KindsApart statementParser := by
  intro s t a b expression ha hb _ hexpression hkind
  have hstatement := (kinds_of_statementParser ha).1
  rw [hkind] at hstatement
  rcases (kinds_of_statementParser hb).2 expression hexpression with h | h
  · simp [h] at hstatement
  · simp [h] at hstatement

/-- A name matches the name with a semicolon, and the other way round; a declaration does not match
the name that it would be aligned with; and the blank text matches what is blank or too deep. -/
theorem agreesWithText_of_statements :
    KindsApart statementParser ∧
      (ofSource statementParser "x;").agreesWithText statementParser "x" = true ∧
      (ofSource statementParser "x").agreesWithText statementParser "x;" = true ∧
      ((aligned (ofSource statementParser "let a;").node (ofSource statementParser "x").node).map
          Tree.kind = some "identifier" ∧
        (ofSource statementParser "let a;").agreesWithText statementParser "x" =
          (ofSource statementParser "let a;").agreesWith (ofSource statementParser "x")) ∧
      ∀ t,
        (ofSource statementParser " ").agreesWithText statementParser t = true ↔
          Text.isBlank t = true ∨ maxDepth < (statementParser t).height := by
  obtain ⟨hhandles, _, hequivalence, hblank⟩ :=
    agreesWithText_equivalence statementParser kindsApart_statementParser
  have hmatches : (ofSource statementParser "x;").agreesWithText statementParser "x" = true := by
    decide
  exact ⟨kindsApart_statementParser, hmatches, hequivalence.symm hmatches,
    ⟨by decide, hhandles "let a;" "x"⟩, hblank " " (Or.inl (by decide))⟩

end Samples

end Handle
end SnippetRubric
