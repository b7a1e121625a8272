import Mathlib.Tactic.MkIffOfInductiveProp
import SnippetRubric.Declaration.Basic
import SnippetRubric.Proofs.Fragment.Reading

/-!
# Types that are read whole

A type is read from the program `let _ : …;`, out of the annotation of the first declarator.  The
grammar lets more follow there than a type: an initializer, and further declarators.  Both leave the
host a single statement without damage, so that the fragment is read and what follows is dropped.

The main statement is `FragmentContext.read_type_whole_iff`: a type that is read was the whole of
its declaration just when neither follows, and the whole of its annotation just when it is no
comment.
-/

namespace SnippetRubric

theorem eq_singleton_iff_of_head?
    {α : Type}
    {xs : List α}
    {x : α}
    (hhead : xs.head? = some x) :
    xs = [x] ↔ xs.length = 1 := by
  constructor
  · intro h
    rw [h]
    rfl
  · intro h
    obtain ⟨y, rfl⟩ := List.length_eq_one_iff.mp h
    rw [Option.some.inj hhead]

namespace Tree

/-- A declarator with a colon behind its name, as the grammar has it: the name, the clause of one
type and perhaps an initializer, with comments anywhere. -/
@[mk_iff]
structure IsTypedDeclarator (d : Node) : Prop where
  parts : ∀ c ∈ d.children,
    c.isComment = true ∨ c.field = some "name" ∨ c.field = some "type" ∨ c.kind = "=" ∨
      c.field = some "value"
  comments : ∀ c ∈ d.children, c.isComment = true → c.field = none
  oneClause : (d.childrenIn "type").length = 1
  oneType : ∀ clause ∈ d.childrenIn "type", clause.statements.length = 1
  initialized : ∀ c ∈ d.children, c.kind = "=" → (d.child? "value").isSome = true

instance (d : Node) : Decidable d.IsTypedDeclarator :=
  decidable_of_iff' _ (isTypedDeclarator_iff d)

/-- The declarator is the only one of its host, and apart from comments it has nothing but its name
and the clause. -/
structure TakenWhole (host declarator clause : Node) : Prop where
  alone : host.declarators = [declarator]
  bare : ∀ c ∈ declarator.children, c.isComment = false → c.field = some "name" ∨ c = clause

namespace IsTypedDeclarator

variable {host declarator clause n : Node}

theorem childrenIn_type
    (h : declarator.IsTypedDeclarator)
    (hclause : declarator.child? "type" = some clause) :
    declarator.childrenIn "type" = [clause] := by
  have hhead : (declarator.childrenIn "type").head? = some clause := by
    rw [childrenIn, List.head?_filter]
    exact hclause
  exact (eq_singleton_iff_of_head? hhead).mpr h.oneClause

/-- Without an initializer there are the name and the clause only, and an initializer is neither of
them. -/
theorem bare_iff
    (h : declarator.IsTypedDeclarator)
    (hclause : declarator.child? "type" = some clause) :
    (∀ c ∈ declarator.children, c.isComment = false → c.field = some "name" ∨ c = clause) ↔
      declarator.child? "value" = none := by
  constructor
  · intro hbare
    cases hvalue : declarator.child? "value" with
    | none =>
        rfl
    | some v =>
        have hmem := List.mem_of_find?_eq_some hvalue
        have hfield := field_of_child? hvalue
        have hcomment : v.isComment = false := by
          cases hv : v.isComment with
          | false =>
              rfl
          | true =>
              simp [h.comments v hmem hv] at hfield
        rcases hbare v hmem hcomment with hname | rfl
        · simp [hname] at hfield
        · simp [field_of_child? hclause] at hfield
  · intro hvalue c hc hcomment
    rcases h.parts c hc with hc' | hname | htype | hequals | hfield
    · simp [hc'] at hcomment
    · exact Or.inl hname
    · have hmem : c ∈ declarator.childrenIn "type" := by
        simp [childrenIn, hc, htype]
      rw [h.childrenIn_type hclause, List.mem_singleton] at hmem
      exact Or.inr hmem
    · have hvalued := h.initialized c hc hequals
      simp [hvalue] at hvalued
    · have hnone := List.find?_eq_none.mp hvalue c hc
      simp [hfield] at hnone

/-- The fragment was taken whole when neither a declarator nor an initializer follows. -/
theorem takenWhole_iff
    (h : declarator.IsTypedDeclarator)
    (hfirst : host.firstOf? .declarator = some declarator)
    (hclause : declarator.child? "type" = some clause) :
    TakenWhole host declarator clause ↔
      host.declarators.length = 1 ∧ declarator.child? "value" = none := by
  have hhead : host.declarators.head? = some declarator := by
    rw [declarators, childrenOf, List.head?_filter]
    exact hfirst
  rw [← eq_singleton_iff_of_head? hhead, ← h.bare_iff hclause]
  constructor
  · rintro ⟨halone, hbare⟩
    exact ⟨halone, hbare⟩
  · rintro ⟨halone, hbare⟩
    exact ⟨halone, hbare⟩

/-- The first named child of the clause is its type when it is no comment. -/
theorem statements_eq_singleton_iff
    (h : declarator.IsTypedDeclarator)
    (hclause : declarator.child? "type" = some clause)
    (hn : clause.firstNamed? = some n) :
    clause.statements = [n] ↔ n.isComment = false := by
  have hmem : n ∈ clause.statements ↔ n.isComment = false := by
    have hchild : n ∈ clause.children := List.mem_of_find?_eq_some hn
    have hnamed : n.named = true := List.find?_some hn
    simp [statements, hchild, hnamed]
  obtain ⟨type, htype⟩ : ∃ type, clause.statements = [type] :=
    List.length_eq_one_iff.mp (h.oneType clause (by simp [h.childrenIn_type hclause]))
  rw [← hmem, htype]
  simp [eq_comm]

end IsTypedDeclarator
end Tree

namespace FragmentContext

/-- The program that hosts a type is accepted as a single statement, and this is its first
declarator with the clause of its type. -/
structure HostsType (root host declarator clause : Node) : Prop where
  undamaged : root.hasDamage = false
  single : root.statements = [host]
  first : host.firstOf? .declarator = some declarator
  clause : declarator.child? "type" = some clause

/-- A program hosts a type in one place only. -/
theorem HostsType.unique
    {root host host' declarator declarator' clause clause' : Node}
    (h : HostsType root host declarator clause)
    (h' : HostsType root host' declarator' clause') :
    host = host' ∧ declarator = declarator' ∧ clause = clause' := by
  obtain rfl : host = host' := by
    simpa using h.single.symm.trans h'.single
  obtain rfl : declarator = declarator' :=
    Option.some.inj (h.first.symm.trans h'.first)
  exact ⟨rfl, rfl, Option.some.inj (h.clause.symm.trans h'.clause)⟩

/-- A type is the first named child of the clause in its host. -/
theorem extract_type_eq_some_iff
    {root n : Node} :
    typeReference.extract root = some n ↔
      ∃ host declarator clause,
        HostsType root host declarator clause ∧ clause.firstNamed? = some n := by
  simp only [extract, Option.bind_eq_bind, Option.bind_eq_some_iff, Tree.host?_eq_some_iff]
  constructor
  · rintro ⟨host, ⟨hdamage, hsingle⟩, declarator, hfirst, clause, hclause, hn⟩
    exact ⟨host, declarator, clause, ⟨hdamage, hsingle, hfirst, hclause⟩, hn⟩
  · rintro ⟨host, declarator, clause, hhosts, hn⟩
    exact ⟨host, ⟨hhosts.undamaged, hhosts.single⟩, declarator, hhosts.first, clause, hhosts.clause,
      hn⟩

/-- The program that hosts a type, as it is read. -/
def typeHost (parse : Parser) (fragment : String) : Node :=
  (parse (typeReference.embed fragment)).excerpted (typeReference.embed fragment)

/-- A type that is read was the whole of its declaration just when no further declarator and no
initializer follow it, and the whole of its annotation just when it is no comment. -/
theorem read_type_whole_iff
    (parse : Parser)
    (fragment : String)
    (n : Node)
    (hread : typeReference.read parse fragment = some n)
    (hgrammar : ∀ host declarator clause,
      HostsType (typeHost parse fragment) host declarator clause → declarator.IsTypedDeclarator) :
    ∃ host declarator clause,
      HostsType (typeHost parse fragment) host declarator clause ∧
        clause.firstNamed? = some n ∧
        (Tree.TakenWhole host declarator clause ↔
          host.declarators.length = 1 ∧ declarator.child? "value" = none) ∧
        (clause.statements = [n] ↔ n.isComment = false) := by
  obtain ⟨_, _, hextract⟩ := read_eq_some_iff.mp hread
  obtain ⟨host, declarator, clause, hhosts, hn⟩ := extract_type_eq_some_iff.mp hextract
  have htyped := hgrammar host declarator clause hhosts
  exact ⟨host, declarator, clause, hhosts, hn,
    htyped.takenWhole_iff hhosts.first hhosts.clause,
    htyped.statements_eq_singleton_iff hhosts.clause hn⟩

section Samples

/-- A program `let _ : …;` as a parser sees it: a type, perhaps an initializer behind it, and
perhaps further declarators. -/
def typeHostSample
    (clauseStop declaratorStop stop : Nat)
    (type : ParseTree)
    (initializer further : List ParseTree) :
    ParseTree :=
  .node ⟨"program", none, true, false, ⟨0, stop⟩⟩
    [.node ⟨"lexical_declaration", none, true, false, ⟨0, stop⟩⟩
      (.node ⟨"let", some "kind", false, false, ⟨0, 3⟩⟩ [] ::
        .node ⟨"variable_declarator", none, true, false, ⟨4, declaratorStop⟩⟩
          (.node ⟨"identifier", some "name", true, false, ⟨4, 5⟩⟩ [] ::
            .node ⟨"type_annotation", some "type", true, false, ⟨6, clauseStop⟩⟩
              [.node ⟨":", none, false, false, ⟨6, 7⟩⟩ [], type] ::
            initializer) ::
        (further ++ [.node ⟨";", none, false, false, ⟨stop - 1, stop⟩⟩ []]))]

/-- A type of one letter as a parser sees it. -/
def letterTypeSample : ParseTree :=
  .node ⟨"type_identifier", none, true, false, ⟨8, 9⟩⟩ []

/-- A parser that knows the hosts of `x = 1`, of `a, b` and of `number`. -/
def typeHostParser : Parser := fun text =>
  if text = "let _ : x = 1;" then
    typeHostSample 9 13 14 letterTypeSample
      [.node ⟨"=", none, false, false, ⟨10, 11⟩⟩ [],
       .node ⟨"number", some "value", true, false, ⟨12, 13⟩⟩ []] []
  else if text = "let _ : a, b;" then
    typeHostSample 9 9 13 letterTypeSample []
      [.node ⟨",", none, false, false, ⟨9, 10⟩⟩ [],
       .node ⟨"variable_declarator", none, true, false, ⟨11, 12⟩⟩
        [.node ⟨"identifier", some "name", true, false, ⟨11, 12⟩⟩ []]]
  else
    typeHostSample 14 14 15
      (.node ⟨"predefined_type", none, true, false, ⟨8, 14⟩⟩
        [.node ⟨"number", none, false, false, ⟨8, 14⟩⟩ []]) [] []

/-- The type `number` is read and was the whole of its declaration. -/
theorem read_number_whole :
    ∃ n host declarator clause,
      typeReference.read typeHostParser "number" = some n ∧
        HostsType (typeHost typeHostParser "number") host declarator clause ∧
        declarator.IsTypedDeclarator ∧
        Tree.TakenWhole host declarator clause ∧
        clause.statements = [n] := by
  obtain ⟨n, host, declarator, clause, hread, hhosts, htyped, halone, hvalue, hcomment⟩ :
      ∃ n host declarator clause,
        typeReference.read typeHostParser "number" = some n ∧
          HostsType (typeHost typeHostParser "number") host declarator clause ∧
          declarator.IsTypedDeclarator ∧
          host.declarators.length = 1 ∧
          declarator.child? "value" = none ∧
          n.isComment = false :=
    ⟨_, _, _, _, rfl, ⟨by decide, rfl, rfl, rfl⟩, by decide, by decide, rfl, by decide⟩
  have hgrammar : ∀ host' declarator' clause',
      HostsType (typeHost typeHostParser "number") host' declarator' clause' →
        declarator'.IsTypedDeclarator := by
    intro host' declarator' clause' hhosts'
    obtain ⟨rfl, rfl, rfl⟩ := hhosts.unique hhosts'
    exact htyped
  obtain ⟨_, _, _, hhosts', _, hwhole, htype⟩ :=
    read_type_whole_iff typeHostParser "number" n hread hgrammar
  obtain ⟨rfl, rfl, rfl⟩ := hhosts.unique hhosts'
  exact ⟨n, host, declarator, clause, hread, hhosts, htyped, hwhole.mpr ⟨halone, hvalue⟩,
    htype.mpr hcomment⟩

/-- The fragments `x = 1` and `a, b` are read as the types `x` and `a`, though an initializer or a
second declarator follows: it is dropped. -/
theorem read_type_drops_rest :
    (∃ n host declarator clause,
      typeReference.read typeHostParser "x = 1" = some n ∧
        n.text = "x" ∧
        HostsType (typeHost typeHostParser "x = 1") host declarator clause ∧
        declarator.IsTypedDeclarator ∧
        declarator.childText? "value" = some "1" ∧
        ¬ Tree.TakenWhole host declarator clause) ∧
    (∃ n host declarator clause,
      typeReference.read typeHostParser "a, b" = some n ∧
        n.text = "a" ∧
        HostsType (typeHost typeHostParser "a, b") host declarator clause ∧
        declarator.IsTypedDeclarator ∧
        host.declarators.map Tree.text = ["_ : a", "b"] ∧
        ¬ Tree.TakenWhole host declarator clause) := by
  constructor
  · obtain ⟨n, host, declarator, clause, hread, htext, hhosts, htyped, hvalue⟩ :
        ∃ n host declarator clause,
          typeReference.read typeHostParser "x = 1" = some n ∧
            n.text = "x" ∧
            HostsType (typeHost typeHostParser "x = 1") host declarator clause ∧
            declarator.IsTypedDeclarator ∧
            declarator.childText? "value" = some "1" :=
      ⟨_, _, _, _, rfl, by decide, ⟨by decide, rfl, rfl, rfl⟩, by decide, by decide⟩
    refine ⟨n, host, declarator, clause, hread, htext, hhosts, htyped, hvalue, ?_⟩
    intro hwhole
    obtain ⟨_, hnone⟩ := (htyped.takenWhole_iff hhosts.first hhosts.clause).mp hwhole
    simp [Tree.childText?, hnone] at hvalue
  · refine ⟨_, _, _, _, rfl, by decide, ⟨by decide, rfl, rfl, rfl⟩, by decide, by decide, ?_⟩
    intro hwhole
    exact absurd (congrArg List.length hwhole.alone) (by decide)

end Samples

end FragmentContext
end SnippetRubric
