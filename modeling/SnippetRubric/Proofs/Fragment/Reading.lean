import SnippetRubric.Fragment
import SnippetRubric.Proofs.Tree.Preorder

/-!
# Reading fragments

Reading a fragment asks for more than that its host is accepted: the host has one statement only,
and the fragment stands where the context expects it.  `FragmentContext.Places` says where that is.

The main statement is `FragmentContext.read_agrees_with_judgeFragment`: a fragment is read as a node
just when it fits its host (`FragmentContext.Fits`), and nothing is read from a host that is not
accepted.  The host is judged on its parse tree, at any depth, and the fragment is read from a copy;
`ParseTree.host?_excerpted_eq_some_iff` brings the two together.
-/

namespace SnippetRubric

/-- A member of a list that satisfies a condition, where none before it does. -/
def IsFirst {α : Type} (condition : α → Prop) (xs : List α) (x : α) : Prop :=
  ∃ before after, xs = before ++ x :: after ∧ condition x ∧ ∀ y ∈ before, ¬ condition y

theorem IsFirst.mem
    {α : Type}
    {condition : α → Prop}
    {xs : List α}
    {x : α}
    (h : IsFirst condition xs x) :
    x ∈ xs := by
  obtain ⟨before, after, rfl, _, _⟩ := h
  simp

theorem find?_eq_some_iff_isFirst
    {α : Type}
    {p : α → Bool}
    {condition : α → Prop}
    (hcondition : ∀ y, p y = true ↔ condition y)
    {xs : List α}
    {x : α} :
    xs.find? p = some x ↔ IsFirst condition xs x := by
  rw [List.find?_eq_some_iff_append, IsFirst]
  simp only [Bool.not_eq_true', ← Bool.not_eq_true, hcondition]
  constructor
  · rintro ⟨hx, before, after, hxs, hbefore⟩
    exact ⟨before, after, hxs, hx, hbefore⟩
  · rintro ⟨before, after, hxs, hx, hbefore⟩
    exact ⟨hx, before, after, hxs, hbefore⟩

namespace Tree

variable {n c : Node}

theorem child?_eq_some_iff
    {field : String} :
    n.child? field = some c ↔ IsFirst (·.field = some field) n.children c :=
  find?_eq_some_iff_isFirst (by simp)

theorem firstOf?_eq_some_iff
    {shape : Shape} :
    n.firstOf? shape = some c ↔ IsFirst (·.shape = shape) n.children c :=
  find?_eq_some_iff_isFirst (by simp)

theorem firstNamed?_eq_some_iff :
    n.firstNamed? = some c ↔ IsFirst (·.named = true) n.children c :=
  find?_eq_some_iff_isFirst (by simp)

theorem firstStatement?_eq_some_iff :
    n.firstStatement? = some c ↔
      IsFirst (fun s => s.named = true ∧ s.kind ≠ "comment") n.children c :=
  find?_eq_some_iff_isFirst (by simp [isComment])

theorem singleStatement?_eq_some_iff :
    n.singleStatement? = some c ↔ n.statements = [c] := by
  unfold singleStatement?
  split
  · rename_i s hstatements
    simp [hstatements]
  · rename_i hstatements
    simp only [reduceCtorEq, false_iff]
    exact hstatements c

theorem host?_eq_some_iff :
    n.host? = some c ↔ n.hasDamage = false ∧ n.statements = [c] := by
  rw [host?, ← singleStatement?_eq_some_iff]
  cases n.hasDamage with
  | true =>
      simp
  | false =>
      simp

theorem isSubtree_of_statements
    (h : n.statements = [c]) :
    c.IsSubtree n := by
  have hmem : c ∈ n.statements := by simp [h]
  exact .of_mem_children (List.mem_filter.mp hmem).1

end Tree

namespace ParseTree

/-- The named children of a program that are not comments. -/
def topStatements (t : ParseTree) : List ParseTree :=
  t.children.filter fun c => c.label.named && c.label.kind != "comment"

theorem statements_excerpted
    (source : String)
    (t : ParseTree) :
    (t.excerpted source).statements = t.topStatements.map (excerpted source) := by
  cases t with
  | node mark cs =>
      rw [topStatements, Tree.statements, excerpted, Tree.map, Tree.children_node,
        Tree.children_node, Tree.mapAll_eq_map, List.filter_map]
      congr 1
      apply List.filter_congr
      intro c _
      simp [Tree.named, Tree.isComment, Tree.kind, Mark.excerpt, bne]

theorem copy_eq_ok_iff
    {source : String}
    {t : ParseTree}
    {root : Node} :
    t.copy source = .ok root ↔ t.height ≤ maxDepth ∧ t.excerpted source = root := by
  rw [copy, copyAt_eq_ok_iff, Nat.zero_add]

/-- The copy of a program has a host when the program is accepted and has a single statement. -/
theorem host?_excerpted_eq_some_iff
    {source : String}
    {t : ParseTree}
    {host : Node} :
    (t.excerpted source).host? = some host ↔
      t.verdict source = .ok () ∧
        ∃ s, t.topStatements = [s] ∧ s.excerpted source = host := by
  rw [Tree.host?_eq_some_iff, hasDamage_excerpted, ← verdict_eq_ok_iff source,
    statements_excerpted, List.map_eq_singleton_iff]

end ParseTree

namespace FragmentContext

/-- The field of the host that lists the members of a context, and the shape of these members. -/
def memberList? : FragmentContext → Option (String × Shape)
  | method => some ("body", .method)
  | property => some ("body", .classProperty)
  | parameter => some ("parameters", .parameter)
  | generic | typeReference => none

/-- Where a context finds the node of a fragment in the statement that hosts it. -/
inductive Places : FragmentContext → Node → Node → Prop where
  | type
      {host declarator clause n : Node}
      (hdeclarator : IsFirst (·.shape = .declarator) host.children declarator)
      (hclause : IsFirst (·.field = some "type") declarator.children clause)
      (hn : IsFirst (·.named = true) clause.children n) :
      Places typeReference host n
  | member
      {context : FragmentContext}
      {field : String}
      {shape : Shape}
      {host list n : Node}
      (hmember : context.memberList? = some (field, shape))
      (hlist : IsFirst (·.field = some field) host.children list)
      (hn : IsFirst (·.shape = shape) list.children n) :
      Places context host n

/-- A fragment fits its host as a node: the host program is accepted, does not nest too deeply and
has a single statement, in which the context places the node. -/
structure Fits (parse : Parser) (context : FragmentContext) (fragment : String) (n : Node) :
    Prop where
  filled : Text.isBlank fragment = false
  accepted : judgeFragment parse context fragment = .ok ()
  shallow : (parse (context.embed fragment)).height ≤ maxDepth
  placed :
    ∃ host,
      (parse (context.embed fragment)).topStatements = [host] ∧
        context.Places (host.excerpted (context.embed fragment)) n

variable {context : FragmentContext} {root host n : Node}

theorem Places.isSubtree
    (h : context.Places host n) :
    n.IsSubtree host := by
  cases h with
  | type hdeclarator hclause hn =>
      exact .child hdeclarator.mem (.child hclause.mem (.of_mem_children hn.mem))
  | member _ hlist hn =>
      exact .child hlist.mem (.of_mem_children hn.mem)

/-- The contexts that read a member take the first one of its shape from its list. -/
theorem extract_eq_some_iff_of_memberList?
    {field : String}
    {shape : Shape}
    (hmember : context.memberList? = some (field, shape)) :
    context.extract root = some n ↔ ∃ host, root.host? = some host ∧ context.Places host n := by
  have hextract :
      context.extract root =
        root.host?.bind fun host => (host.child? field).bind (·.firstOf? shape) := by
    cases context <;> cases hmember <;> rfl
  simp only [hextract, Option.bind_eq_some_iff, Tree.child?_eq_some_iff,
    Tree.firstOf?_eq_some_iff]
  constructor
  · rintro ⟨host, hhost, list, hlist, hn⟩
    exact ⟨host, hhost, .member hmember hlist hn⟩
  · rintro ⟨host, hhost, hplaces⟩
    cases hplaces with
    | type =>
        cases hmember
    | member hother hlist hn =>
        obtain ⟨rfl, rfl⟩ : field = _ ∧ shape = _ := by
          simpa [hmember] using hother
        exact ⟨host, hhost, _, hlist, hn⟩

/-- A fragment is taken out of its host where the context places it. -/
theorem extract_eq_some_iff
    (hcontext : context ≠ .generic) :
    context.extract root = some n ↔ ∃ host, root.host? = some host ∧ context.Places host n := by
  cases context with
  | generic =>
      exact absurd rfl hcontext
  | typeReference =>
      simp only [extract, Option.bind_eq_bind, Option.bind_eq_some_iff,
        Tree.child?_eq_some_iff, Tree.firstOf?_eq_some_iff, Tree.firstNamed?_eq_some_iff]
      constructor
      · rintro ⟨host, hhost, declarator, hdeclarator, clause, hclause, hn⟩
        exact ⟨host, hhost, .type hdeclarator hclause hn⟩
      · rintro ⟨host, hhost, hplaces⟩
        cases hplaces with
        | type hdeclarator hclause hn =>
            exact ⟨host, hhost, _, hdeclarator, _, hclause, hn⟩
        | member hmember =>
            cases hmember
  | method | property | parameter =>
      exact extract_eq_some_iff_of_memberList? rfl

theorem isSubtree_of_extract
    (h : context.extract root = some n) :
    n.IsSubtree root := by
  by_cases hcontext : context = .generic
  · subst hcontext
    -- A text without a host is read as its only statement, or else as the whole program.
    cases hsingle : root.singleStatement? with
    | none =>
        obtain rfl : root = n := by simpa [extract, hsingle] using h
        exact .refl root
    | some s =>
        obtain rfl : s = n := by simpa [extract, hsingle] using h
        exact Tree.isSubtree_of_statements (Tree.singleStatement?_eq_some_iff.mp hsingle)
  · obtain ⟨host, hhost, hplaces⟩ := (extract_eq_some_iff hcontext).mp h
    have hroot := Tree.isSubtree_of_statements (Tree.host?_eq_some_iff.mp hhost).2
    exact hplaces.isSubtree.trans hroot

section Read

variable {parse : Parser} {fragment : String}

/-- A fragment that is not blank is read from the copy of its host. -/
theorem read_eq_some_iff :
    context.read parse fragment = some n ↔
      Text.isBlank fragment = false ∧
        (parse (context.embed fragment)).height ≤ maxDepth ∧
        context.extract ((parse (context.embed fragment)).excerpted (context.embed fragment)) =
          some n := by
  simp only [read, ParseTree.copy_eq]
  cases Text.isBlank fragment with
  | true =>
      simp
  | false =>
      by_cases hheight : (parse (context.embed fragment)).height ≤ maxDepth
      · simp [hheight]
      · simp [hheight]

/-- What is read was taken out of the copy of its host. -/
theorem copied_of_read
    (hread : context.read parse fragment = some n) :
    n.Copied := by
  obtain ⟨_, hheight, hextract⟩ := read_eq_some_iff.mp hread
  exact ⟨_, 0, _, _, ParseTree.copy_eq_ok_iff.mpr ⟨hheight, rfl⟩, isSubtree_of_extract hextract⟩

theorem damaged_of_read
    (hcontext : context ≠ .generic)
    (hread : context.read parse fragment = some n)
    {s : Node}
    (hs : s.IsSubtree n) :
    s.damaged = false := by
  obtain ⟨_, _, hextract⟩ := read_eq_some_iff.mp hread
  obtain ⟨host, hhost, hplaces⟩ := (extract_eq_some_iff hcontext).mp hextract
  obtain ⟨hdamage, hstatements⟩ := Tree.host?_eq_some_iff.mp hhost
  apply Tree.hasDamage_eq_false_iff.mp hdamage
  exact hs.trans (hplaces.isSubtree.trans (Tree.isSubtree_of_statements hstatements))

theorem read_eq_some_iff_fits
    (hcontext : context ≠ .generic) :
    context.read parse fragment = some n ↔ Fits parse context fragment n := by
  rw [read_eq_some_iff, extract_eq_some_iff hcontext]
  simp only [ParseTree.host?_excerpted_eq_some_iff]
  constructor
  · rintro ⟨hblank, hheight, host, ⟨hverdict, s, hs, rfl⟩, hplaces⟩
    exact ⟨hblank, hverdict, hheight, s, hs, hplaces⟩
  · rintro ⟨hblank, hverdict, hheight, s, hs, hplaces⟩
    exact ⟨hblank, hheight, _, ⟨hverdict, s, hs, rfl⟩, hplaces⟩

end Read

/-- Reading a fragment in a host and judging the host agree: a fragment is read just when it fits
its host, the node that is read is without damage, and nothing is read from a host that is not
accepted. -/
theorem read_agrees_with_judgeFragment
    (parse : Parser)
    (context : FragmentContext)
    (fragment : String)
    (hcontext : context ≠ .generic) :
    (∀ n : Node, context.read parse fragment = some n ↔ Fits parse context fragment n) ∧
    (∀ n : Node, context.read parse fragment = some n →
      ∀ s : Node, s.IsSubtree n → s.damaged = false) ∧
    (∀ fault, judgeFragment parse context fragment = .error fault →
      context.read parse fragment = none) := by
  refine ⟨fun n => read_eq_some_iff_fits hcontext,
    fun n hread s hs => damaged_of_read hcontext hread hs, ?_⟩
  intro fault hfault
  cases hread : context.read parse fragment with
  | none =>
      rfl
  | some n =>
      rw [((read_eq_some_iff_fits hcontext).mp hread).accepted] at hfault
      cases hfault

/-- The program `class _ { … }` as a parser sees it, with these nodes between its brackets. -/
def classSample (stop : Nat) (members : List ParseTree) : ParseTree :=
  .node ⟨"program", none, true, false, ⟨0, stop⟩⟩
    [.node ⟨"class_declaration", none, true, false, ⟨0, stop⟩⟩
      [.node ⟨"class", none, false, false, ⟨0, 5⟩⟩ [],
       .node ⟨"type_identifier", some "name", true, false, ⟨6, 7⟩⟩ [],
       .node ⟨"class_body", some "body", true, false, ⟨8, stop⟩⟩
        (.node ⟨"\x7b", none, false, false, ⟨8, 9⟩⟩ [] ::
          (members ++ [.node ⟨"\x7d", none, false, false, ⟨stop - 1, stop⟩⟩ []]))]]

/-- A property that is a name alone. -/
def propertySample (start : Nat) : ParseTree :=
  .node ⟨"public_field_definition", none, true, false, ⟨start, start + 1⟩⟩
    [.node ⟨"property_identifier", some "name", true, false, ⟨start, start + 1⟩⟩ []]

/-- The host of the fragment `a;`. -/
def filledHostSample : ParseTree :=
  classSample 14 [propertySample 10, .node ⟨";", none, false, false, ⟨11, 12⟩⟩ []]

/-- The host of the fragment `a b`, where the parser skips the first name. -/
def damagedHostSample : ParseTree :=
  classSample 15
    [.node ⟨"ERROR", none, true, true, ⟨10, 11⟩⟩
      [.node ⟨"property_identifier", none, true, false, ⟨10, 11⟩⟩ []],
     propertySample 12]

/-- The property `a;` is read and fits its host, and `a b` is not read as a property: its host is
not accepted. -/
theorem read_agrees_on_samples :
    property ≠ generic ∧
      (∃ n,
        property.read (fun _ => filledHostSample) "a;" = some n ∧
          Fits (fun _ => filledHostSample) property "a;" n ∧
          ∀ s : Node, s.IsSubtree n → s.damaged = false) ∧
      property.read (fun _ => damagedHostSample) "a b" = none := by
  have hcontext : property ≠ generic := by decide
  obtain ⟨hfits, hsound, _⟩ :=
    read_agrees_with_judgeFragment (fun _ => filledHostSample) property "a;" hcontext
  obtain ⟨_, _, hrefused⟩ :=
    read_agrees_with_judgeFragment (fun _ => damagedHostSample) property "a b" hcontext
  refine ⟨hcontext, ?_, ?_⟩
  · have hread : (property.read (fun _ => filledHostSample) "a;").isSome = true := by decide
    obtain ⟨n, hn⟩ := Option.isSome_iff_exists.mp hread
    exact ⟨n, hn, (hfits n).mp hn, hsound n hn⟩
  · exact hrefused (.single ⟨⟨10, 11⟩, ⟨1, 11⟩⟩) rfl

end FragmentContext
end SnippetRubric
