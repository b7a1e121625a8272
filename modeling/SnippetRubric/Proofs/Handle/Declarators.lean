import SnippetRubric.Proofs.Fragment.Reading
import SnippetRubric.Proofs.Handle.Source

/-!
# Which declarator answers for a name

A variable statement may hold several declarators.  A lookup by name takes the statement when any of
them goes by the name, and what is asked of the answer is then told by one declarator.

A lookup of a variable does not narrow its answer: the first declarator of the statement speaks, and
the answer is about the name just when that declarator goes by it
(`Handle.findVariable_answers_for_name_iff`).  A lookup of a function does narrow it: the declarator
that binds the name to a function speaks, whatever the others are
(`Handle.findFunction_narrows_to_binding`).
-/

namespace SnippetRubric

section First

variable {α β : Type} {xs : List α} {x : α}

theorem isFirst_congr
    {p q : α → Prop}
    (hpq : ∀ y ∈ xs, p y ↔ q y) :
    IsFirst p xs x ↔ IsFirst q xs x := by
  constructor
  · rintro ⟨before, after, rfl, hx, hbefore⟩
    refine ⟨before, after, rfl, (hpq x (by simp)).mp hx, fun y hy hqy => ?_⟩
    exact hbefore y hy ((hpq y (by simp [hy])).mpr hqy)
  · rintro ⟨before, after, rfl, hx, hbefore⟩
    refine ⟨before, after, rfl, (hpq x (by simp)).mpr hx, fun y hy hpy => ?_⟩
    exact hbefore y hy ((hpq y (by simp [hy])).mp hpy)

theorem IsFirst.satisfies
    {condition : α → Prop}
    (h : IsFirst condition xs x) :
    condition x := by
  obtain ⟨_, _, _, hx, _⟩ := h
  exact hx

theorem exists_isFirst
    {condition : α → Prop}
    (h : ∃ y ∈ xs, condition y) :
    ∃ x, IsFirst condition xs x := by
  classical
  obtain ⟨y, hy, hcondition⟩ := h
  have hsome : (xs.find? fun z => decide (condition z)).isSome = true :=
    List.find?_isSome.mpr ⟨y, hy, by simpa using hcondition⟩
  obtain ⟨x, hx⟩ := Option.isSome_iff_exists.mp hsome
  exact ⟨x, (find?_eq_some_iff_isFirst (by simp)).mp hx⟩

/-- The head of a list that satisfies a condition is the first to do so. -/
theorem IsFirst.eq_of_head?
    {condition : α → Prop}
    {y : α}
    (h : IsFirst condition xs x)
    (hhead : xs.head? = some y)
    (hy : condition y) :
    x = y := by
  obtain ⟨before, after, rfl, _, hbefore⟩ := h
  cases before with
  | nil =>
      simpa using hhead
  | cons b bs =>
      obtain rfl : b = y := by simpa using hhead
      exact absurd hy (hbefore b (by simp))

theorem findSome?_eq_some_iff_isFirst
    {f : α → Option β}
    {b : β} :
    xs.findSome? f = some b ↔ ∃ x, IsFirst (fun y => (f y).isSome = true) xs x ∧ f x = some b := by
  rw [List.findSome?_eq_some_iff]
  constructor
  · rintro ⟨before, a, after, hxs, ha, hbefore⟩
    refine ⟨a, ⟨before, after, hxs, by simp [ha], fun y hy => ?_⟩, ha⟩
    simp [hbefore y hy]
  · rintro ⟨a, ⟨before, after, hxs, _, hbefore⟩, ha⟩
    exact ⟨before, a, after, hxs, ha, fun y hy => by simpa using hbefore y hy⟩

end First

namespace Tree

/-- A declarator goes by a name. -/
def GoesBy (name : String) (declarator : Node) : Prop :=
  declarator.childText? "name" = some name

/-- An entry is a variable of a name: a variable statement with a declarator that goes by it. -/
def IsVariableCalled (name : String) (entry : Node) : Prop :=
  entry.shape = .variableStatement ∧ ∃ d ∈ entry.declarators, d.GoesBy name

/-- A declarator binds a name to a function. -/
def BindsToFunction (name : String) (declarator : Node) : Prop :=
  declarator.GoesBy name ∧ declarator.BindsFunction

/-- An entry is a function of a name: a function or method that has it, or a variable statement with
a declarator that binds it to a function. -/
def IsFunctionCalled (name : String) (entry : Node) : Prop :=
  ((entry.shape = .function ∨ entry.shape = .method) ∧ entry.childText? "name" = some name) ∨
    (entry.shape = .variableStatement ∧ ∃ d ∈ entry.declarators, d.BindsToFunction name)

/-- Every declarator of a tree has a name. -/
def DeclaratorsNamed (n : Node) : Prop :=
  ∀ d : Node, d.IsSubtree n → d.shape = .declarator → (d.child? "name").isSome = true

/-- Declarators are named, one level at a time. -/
theorem declaratorsNamed_node
    (a : Excerpt)
    (cs : List Node) :
    (node a cs).DeclaratorsNamed ↔
      ((node a cs).shape = .declarator → ((node a cs).child? "name").isSome = true) ∧
        ∀ c ∈ cs, c.DeclaratorsNamed := by
  constructor
  · intro h
    exact ⟨h _ (.refl _), fun c hc d hd => h d (.child hc hd)⟩
  · rintro ⟨hroot, hchildren⟩ d hd
    cases hd with
    | refl =>
        exact hroot
    | child hc hd =>
        exact hchildren _ hc d hd

variable {n entry d : Node} {name : String}

theorem isSubtree_unexported : n.unexported.IsSubtree n := by
  rcases unexported_cases n with ⟨_, hchild⟩ | ⟨_, hself⟩
  · exact .of_mem_children (List.mem_of_find?_eq_some hchild)
  · rw [hself]
    exact .refl n

theorem isSubtree_of_mem_scope
    (h : entry ∈ n.scope) :
    entry.IsSubtree n := by
  unfold scope at h
  split at h
  · obtain ⟨s, hs, rfl⟩ := List.mem_map.mp h
    exact isSubtree_unexported.trans (.of_mem_children (List.mem_filter.mp hs).1)
  · obtain rfl := List.mem_singleton.mp h
    exact isSubtree_unexported

theorem shape_of_mem_declarators
    (h : d ∈ entry.declarators) :
    d.shape = .declarator := by
  simpa using (List.mem_filter.mp h).2

/-- The declarators of the entries of a scope have names. -/
theorem DeclaratorsNamed.of_mem_scope
    (hnamed : n.DeclaratorsNamed)
    (hentry : entry ∈ n.scope) :
    ∀ d ∈ entry.declarators, (d.child? "name").isSome = true := by
  intro d hd
  refine hnamed d ?_ (shape_of_mem_declarators hd)
  exact .trans (.of_mem_children (List.mem_filter.mp hd).1) (isSubtree_of_mem_scope hentry)

/-- A variable statement declares the names of its declarators. -/
theorem isVariableCalled_iff_declares :
    entry.IsVariableCalled name ↔
      (entry.shape == .variableStatement) = true ∧ entry.declares name = true := by
  rw [IsVariableCalled, beq_iff_eq]
  refine and_congr_right fun hshape => ?_
  rw [declares, if_pos hshape, declaratorNames, List.contains_iff_mem, List.mem_filterMap]
  rfl

/-- A declarator is seen as a callable when its value is a function. -/
theorem ofDeclarator?_eq_some_iff
    {callable : Callable} :
    Callable.ofDeclarator? d = some callable ↔
      ∃ function,
        d.child? "value" = some function ∧
          (function.shape = .arrow ∨ function.shape = .functionExpression) ∧
          callable = ⟨function, d.child? "name"⟩ := by
  rw [Callable.ofDeclarator?, Option.bind_eq_some_iff]
  constructor
  · rintro ⟨function, hvalue, h⟩
    refine ⟨function, hvalue, ?_⟩
    split at h
    · rename_i hshape
      exact ⟨Or.inl hshape, (Option.some.inj h).symm⟩
    · rename_i hshape
      exact ⟨Or.inr hshape, (Option.some.inj h).symm⟩
    · cases h
  · rintro ⟨function, hvalue, hshape, rfl⟩
    refine ⟨function, hvalue, ?_⟩
    rcases hshape with hshape | hshape <;> rw [hshape]

/-- The callables of a variable statement are the functions that its declarators bind. -/
theorem isEmpty_bindings_eq_false_iff
    (hshape : entry.shape = .variableStatement) :
    (Callable.bindings entry).isEmpty = false ↔ ∃ d ∈ entry.declarators, d.BindsFunction := by
  rw [Callable.bindings, if_pos hshape, List.isEmpty_eq_false_iff_exists_mem]
  simp only [List.mem_filterMap]
  constructor
  · rintro ⟨callable, d, hd, hcallable⟩
    exact ⟨d, hd, Callable.bindsFunction_of_ofDeclarator? hcallable⟩
  · rintro ⟨d, hd, function, hvalue, hfunction⟩
    exact ⟨_, d, hd, ofDeclarator?_eq_some_iff.mpr ⟨function, hvalue, hfunction, rfl⟩⟩

/-- A declarator with a name is a callable of that name when it binds a function to it. -/
theorem callable_goes_by_name_iff
    (hshape : d.shape = .declarator)
    (hnamed : (d.child? "name").isSome = true) :
    ((Callable.ofNode? d).any fun callable => callable.name? == some name) = true ↔
      d.BindsToFunction name := by
  obtain ⟨binding, hbinding⟩ := Option.isSome_iff_exists.mp hnamed
  have hnode : Callable.ofNode? d = Callable.ofDeclarator? d := by
    rw [Callable.ofNode?, hshape]
  have hname : d.GoesBy name ↔ binding.text = name := by
    simp [GoesBy, childText?, hbinding]
  rw [Option.any_eq_true, hnode]
  constructor
  · rintro ⟨callable, hcallable, hcalled⟩
    refine ⟨hname.mpr ?_, Callable.bindsFunction_of_ofDeclarator? hcallable⟩
    obtain ⟨function, _, _, rfl⟩ := ofDeclarator?_eq_some_iff.mp hcallable
    simpa [Callable.name?, hbinding] using hcalled
  · rintro ⟨hgoes, function, hvalue, hfunction⟩
    refine ⟨_, ofDeclarator?_eq_some_iff.mpr ⟨function, hvalue, hfunction, rfl⟩, ?_⟩
    simpa [Callable.name?, hbinding] using hname.mp hgoes

section Functions

variable {function : Node}

theorem ofNode?_of_function
    (hfunction : function.shape = .arrow ∨ function.shape = .functionExpression) :
    Callable.ofNode? function = some ⟨function, none⟩ := by
  rcases hfunction with hfunction | hfunction <;> rw [Callable.ofNode?, hfunction]

/-- The parameters of a function are those in its `parameters` child. -/
theorem parameters_of_list
    {list : Node}
    (hfunction : function.shape = .arrow ∨ function.shape = .functionExpression)
    (hlist : function.child? "parameters" = some list) :
    function.parameters = list.childrenOf .parameter := by
  rw [parameters, ofNode?_of_function hfunction, Option.map_some, Option.getD_some,
    Callable.parameters, hlist]

/-- A function without a list of parameters has its `parameter` child as the only one. -/
theorem parameters_of_no_list
    (hfunction : function.shape = .arrow ∨ function.shape = .functionExpression)
    (hnone : function.child? "parameters" = none) :
    function.parameters = (function.child? "parameter").toList := by
  rw [parameters, ofNode?_of_function hfunction, Option.map_some, Option.getD_some,
    Callable.parameters, hnone]

/-- The result type of a function is the first named child of its `return_type` child. -/
theorem resultType?_of_function
    (hfunction : function.shape = .arrow ∨ function.shape = .functionExpression) :
    function.resultType? = (function.child? "return_type").bind firstNamed? := by
  rw [resultType?, ofNode?_of_function hfunction, Option.bind_some, Callable.resultType?]

/-- The body of a function is its `body` child. -/
theorem body?_of_function
    (hfunction : function.shape = .arrow ∨ function.shape = .functionExpression) :
    function.body? = function.child? "body" := by
  have hclass : function.shape ≠ .classDecl := by
    rcases hfunction with hfunction | hfunction <;> simp [hfunction]
  rw [body?, if_neg hclass, ofNode?_of_function hfunction, Option.bind_some, Callable.body?]

end Functions

/-- A declarator that binds a function is a callable as the function itself is. -/
theorem callable_of_declarator
    {function : Node}
    (hshape : d.shape = .declarator)
    (hvalue : d.child? "value" = some function)
    (hfunction : function.shape = .arrow ∨ function.shape = .functionExpression) :
    d.parameters = function.parameters ∧
      d.resultType? = function.resultType? ∧
      d.body? = function.body? := by
  have hbound : Callable.ofNode? d = some ⟨function, d.child? "name"⟩ := by
    rw [Callable.ofNode?, hshape]
    exact ofDeclarator?_eq_some_iff.mpr ⟨function, hvalue, hfunction, rfl⟩
  have hclass : d.shape ≠ .classDecl := by simp [hshape]
  refine ⟨?_, ?_, ?_⟩
  · rw [parameters, parameters, hbound, ofNode?_of_function hfunction]
    rfl
  · rw [resultType?_of_function hfunction, resultType?, hbound]
    rfl
  · rw [body?_of_function hfunction, body?, if_neg hclass, hbound]
    rfl

/-- A name is looked for among the declarators that bind a function, and the first one is taken. -/
theorem functionDeclarator?_eq_some_iff
    (hshape : entry.shape = .variableStatement)
    (hnamed : ∀ d ∈ entry.declarators, (d.child? "name").isSome = true) :
    entry.functionDeclarator? name = some d ↔
      IsFirst (BindsToFunction name) entry.declarators d := by
  rw [functionDeclarator?, if_pos hshape, find?_eq_some_iff_isFirst fun _ => Iff.rfl]
  exact isFirst_congr fun y hy =>
    callable_goes_by_name_iff (shape_of_mem_declarators hy) (hnamed y hy)

theorem isSome_functionDeclarator?_of_bindsToFunction
    (hshape : entry.shape = .variableStatement)
    (hd : d ∈ entry.declarators)
    (hbinds : d.BindsToFunction name) :
    (entry.functionDeclarator? name).isSome = true := by
  obtain ⟨binding, hbinding, _⟩ := Option.map_eq_some_iff.mp hbinds.1
  have hnamed : (d.child? "name").isSome = true := by rw [hbinding, Option.isSome_some]
  rw [functionDeclarator?, if_pos hshape, List.find?_isSome]
  exact ⟨d, hd, (callable_goes_by_name_iff (shape_of_mem_declarators hd) hnamed).mpr hbinds⟩

theorem isSome_functionDeclarator?_iff
    (hshape : entry.shape = .variableStatement)
    (hnamed : ∀ d ∈ entry.declarators, (d.child? "name").isSome = true) :
    (entry.functionDeclarator? name).isSome = true ↔
      ∃ d ∈ entry.declarators, d.BindsToFunction name := by
  constructor
  · intro h
    obtain ⟨d, hd⟩ := Option.isSome_iff_exists.mp h
    have hfirst := (functionDeclarator?_eq_some_iff hshape hnamed).mp hd
    exact ⟨d, hfirst.mem, hfirst.satisfies⟩
  · rintro ⟨d, hd, hbinds⟩
    exact isSome_functionDeclarator?_of_bindsToFunction hshape hd hbinds

end Tree

namespace Handle

variable {h : Handle} {n entry : Node} {name : String}

@[simp] theorem focus_found (n : Node) : (found n).focus = some n := rfl

@[simp] theorem focus_narrowed (h : Handle) (d : Node) : (h.narrowed d).focus = some d := rfl

/-- A handle answers for a declarator: with its name, its initializer and its declared type. -/
structure AnswersFor (h : Handle) (declarator : Node) : Prop where
  name : h.name? = declarator.childText? "name"
  value : h.value = found? (declarator.child? "value")
  declaredType : h.declaredType = ofNode? .typeReference declarator.annotatedType?

section Variables

/-- A lookup by name in a scope answers with the first entry that it lists and that declares the
name. -/
theorem firstDeclaring_scopeWith_eq
    (hnode : h.node = some n)
    (name : String)
    (keep : Node → Bool) :
    firstDeclaring name (h.scopeWith keep) =
      found? (n.scope.find? fun e => decide (keep e = true ∧ e.declares name = true)) := by
  rw [firstDeclaring, scopeWith, hnode, List.find?_map, List.find?_filter]
  rfl

/-- A variable that is found is the first entry of the scope that is one of the name. -/
theorem findVariable_eq_found
    (hfound : (h.findVariable name).isEmpty = false) :
    ∃ n statement,
      h.node = some n ∧
        IsFirst (Tree.IsVariableCalled name) n.scope statement ∧
        h.findVariable name = found statement := by
  cases hnode : h.node with
  | none =>
      simp [findVariable, variableStatements, scopeWith, hnode, firstDeclaring] at hfound
  | some n =>
      have hanswer : h.findVariable name = found? (n.scope.find? _) :=
        firstDeclaring_scopeWith_eq hnode name (·.shape == .variableStatement)
      cases hfind : n.scope.find? _ with
      | none =>
          rw [hanswer, hfind] at hfound
          cases hfound
      | some statement =>
          refine ⟨n, statement, rfl, ?_, by rw [hanswer, hfind]; rfl⟩
          refine (find?_eq_some_iff_isFirst fun e => ?_).mp hfind
          rw [decide_eq_true_iff, Tree.isVariableCalled_iff_declares]

/-- The first declarator of a variable statement answers for the statement. -/
theorem answersFor_found
    {first : Node}
    (hshape : entry.shape = .variableStatement)
    (hfirst : entry.declarators.head? = some first) :
    (found entry).AnswersFor first := by
  constructor
  · rw [name?, focus_found, Option.bind_some, Tree.declaredName?, hshape, hfirst]
    rfl
  · rw [value, focus_found, Option.bind_some, Tree.initializer?, hshape, hfirst]
    rfl
  · rw [declaredType, focus_found, Option.bind_some, Tree.declaredType?, hshape, hfirst]
    rfl

/-- A variable that is found by name is the first statement in scope with a declarator of that name,
and the first declarator of the statement answers for it.  So it answers for the name, with the
first declarator that goes by it, just when the first declarator of all goes by it. -/
theorem findVariable_answers_for_name_iff
    (h : Handle)
    (name : String)
    (hfound : (h.findVariable name).isEmpty = false) :
    ∃ n statement first declarator,
      h.node = some n ∧
      IsFirst (Tree.IsVariableCalled name) n.scope statement ∧
      h.findVariable name = found statement ∧
      statement.declarators.head? = some first ∧
      IsFirst (Tree.GoesBy name) statement.declarators declarator ∧
      (h.findVariable name).AnswersFor first ∧
      ((h.findVariable name).name? = some name ∧ (h.findVariable name).AnswersFor declarator ↔
        first.GoesBy name) := by
  obtain ⟨n, statement, hnode, hfirst, hstatement⟩ := findVariable_eq_found hfound
  obtain ⟨hshape, d, hd, hgoes⟩ := hfirst.satisfies
  obtain ⟨declarator, hdeclarator⟩ := exists_isFirst ⟨d, hd, hgoes⟩
  obtain ⟨first, rest, hcons⟩ := List.exists_cons_of_ne_nil (List.ne_nil_of_mem hd)
  have hhead : statement.declarators.head? = some first := by rw [hcons, List.head?_cons]
  have hanswers : (h.findVariable name).AnswersFor first :=
    hstatement ▸ answersFor_found hshape hhead
  refine ⟨n, statement, first, declarator, hnode, hfirst, hstatement, hhead, hdeclarator,
    hanswers, ?_, ?_⟩
  · rintro ⟨hname, _⟩
    exact hanswers.name.symm.trans hname
  · intro hcalled
    obtain rfl := hdeclarator.eq_of_head? hhead hcalled
    exact ⟨hanswers.name.trans hcalled, hanswers⟩

/-- The statement `const a = () => 1, b = (x: X): Y => x, c = 2;` as a parser sees it. -/
def sharedStatement : ParseTree :=
  .node ⟨"lexical_declaration", none, true, false, ⟨0, 45⟩⟩
    [.node ⟨"const", some "kind", false, false, ⟨0, 5⟩⟩ [],
     .node ⟨"variable_declarator", none, true, false, ⟨6, 17⟩⟩
      [.node ⟨"identifier", some "name", true, false, ⟨6, 7⟩⟩ [],
       .node ⟨"=", none, false, false, ⟨8, 9⟩⟩ [],
       .node ⟨"arrow_function", some "value", true, false, ⟨10, 17⟩⟩
        [.node ⟨"formal_parameters", some "parameters", true, false, ⟨10, 12⟩⟩
          [.node ⟨"(", none, false, false, ⟨10, 11⟩⟩ [],
           .node ⟨")", none, false, false, ⟨11, 12⟩⟩ []],
         .node ⟨"=>", none, false, false, ⟨13, 15⟩⟩ [],
         .node ⟨"number", some "body", true, false, ⟨16, 17⟩⟩ []]],
     .node ⟨",", none, false, false, ⟨17, 18⟩⟩ [],
     .node ⟨"variable_declarator", none, true, false, ⟨19, 37⟩⟩
      [.node ⟨"identifier", some "name", true, false, ⟨19, 20⟩⟩ [],
       .node ⟨"=", none, false, false, ⟨21, 22⟩⟩ [],
       .node ⟨"arrow_function", some "value", true, false, ⟨23, 37⟩⟩
        [.node ⟨"formal_parameters", some "parameters", true, false, ⟨23, 29⟩⟩
          [.node ⟨"(", none, false, false, ⟨23, 24⟩⟩ [],
           .node ⟨"required_parameter", none, true, false, ⟨24, 28⟩⟩
            [.node ⟨"identifier", some "pattern", true, false, ⟨24, 25⟩⟩ [],
             .node ⟨"type_annotation", some "type", true, false, ⟨25, 28⟩⟩
              [.node ⟨":", none, false, false, ⟨25, 26⟩⟩ [],
               .node ⟨"type_identifier", none, true, false, ⟨27, 28⟩⟩ []]],
           .node ⟨")", none, false, false, ⟨28, 29⟩⟩ []],
         .node ⟨"type_annotation", some "return_type", true, false, ⟨29, 32⟩⟩
          [.node ⟨":", none, false, false, ⟨29, 30⟩⟩ [],
           .node ⟨"type_identifier", none, true, false, ⟨31, 32⟩⟩ []],
         .node ⟨"=>", none, false, false, ⟨33, 35⟩⟩ [],
         .node ⟨"identifier", some "body", true, false, ⟨36, 37⟩⟩ []]],
     .node ⟨",", none, false, false, ⟨37, 38⟩⟩ [],
     .node ⟨"variable_declarator", none, true, false, ⟨39, 44⟩⟩
      [.node ⟨"identifier", some "name", true, false, ⟨39, 40⟩⟩ [],
       .node ⟨"=", none, false, false, ⟨41, 42⟩⟩ [],
       .node ⟨"number", some "value", true, false, ⟨43, 44⟩⟩ []],
     .node ⟨";", none, false, false, ⟨44, 45⟩⟩ []]

/-- The text of the statement. -/
def sharedText : String := "const a = () => 1, b = (x: X): Y => x, c = 2;"

/-- The handle of the program that consists of the statement. -/
def sharedHandle : Handle :=
  ofSource (fun _ => .node ⟨"program", none, true, false, ⟨0, 45⟩⟩ [sharedStatement]) sharedText

theorem node_sharedHandle : sharedHandle.node = some (sharedStatement.excerpted sharedText) := rfl

theorem declaratorsNamed_sharedHandle :
    ∀ n, sharedHandle.node = some n → n.DeclaratorsNamed := by
  intro n hn
  obtain rfl := Option.some.inj (node_sharedHandle.symm.trans hn)
  simp [sharedStatement, ParseTree.excerpted, Tree.map, Tree.mapAll, Mark.excerpt,
    Tree.declaratorsNamed_node, Tree.shape, Tree.kind, Tree.field, Tree.child?, Shape.ofKind,
    Shape.kinds, List.lookup_cons]

/-- The variable `a` is found, and its own declarator answers for it. -/
theorem findVariable_answers_for_a :
    (sharedHandle.findVariable "a").isEmpty = false ∧
      (sharedHandle.findVariable "a").name? = some "a" ∧
      ∃ declarator : Node,
        declarator.GoesBy "a" ∧ (sharedHandle.findVariable "a").AnswersFor declarator := by
  have hfound : (sharedHandle.findVariable "a").isEmpty = false := by decide
  have hname : (sharedHandle.findVariable "a").name? = some "a" := by decide
  obtain ⟨_, _, first, declarator, _, _, _, _, hdeclarator, hfirst, hiff⟩ :=
    findVariable_answers_for_name_iff sharedHandle "a" hfound
  have hcalled : first.GoesBy "a" := hfirst.name.symm.trans hname
  exact ⟨hfound, hname, declarator, hdeclarator.satisfies, (hiff.mpr hcalled).2⟩

/-- The variable `c` is found, but `a` answers for it: with its name and its initializer. -/
theorem findVariable_c_answers_for_a :
    (∀ n, sharedHandle.node = some n → n.DeclaratorsNamed) ∧
      (sharedHandle.findVariable "c").isEmpty = false ∧
      (sharedHandle.findVariable "c").name? = some "a" ∧
      (sharedHandle.findVariable "c").value.display = "() => 1" ∧
      ((sharedStatement.excerpted sharedText).declarators.filter fun d =>
        d.childText? "name" == some "c").map (·.childText? "value") = [some "2"] := by
  exact ⟨declaratorsNamed_sharedHandle, by decide, by decide, by decide, by decide⟩

end Variables

section Functions

/-- The entries of a handle's scope. -/
def entries (h : Handle) : List Node :=
  (h.node.map Tree.scope).getD []

/-- A handle answers for a declarator and the function that it binds: with what the declarator
declares, and with the parameters, the result type and the body of the function. -/
structure AnswersForFunction (h : Handle) (declarator function : Node) : Prop
    extends AnswersFor h declarator where
  parameters : h.parameters = (found function).parameters
  resultType : h.resultType = (found function).resultType
  body : h.body = (found function).body

namespace AnswersForFunction

variable {k : Handle} {declarator function : Node}

/-- The parameters of the answer are those in the `parameters` child of the function. -/
theorem parameters_of_list
    {list : Node}
    (h : k.AnswersForFunction declarator function)
    (hfunction : function.shape = .arrow ∨ function.shape = .functionExpression)
    (hlist : function.child? "parameters" = some list) :
    k.parameters = (list.childrenOf .parameter).map found := by
  rw [h.parameters, Handle.parameters, focus_found]
  exact congrArg (List.map found) (Tree.parameters_of_list hfunction hlist)

/-- Where the function has no list of parameters, its `parameter` child is the only one. -/
theorem parameters_of_no_list
    (h : k.AnswersForFunction declarator function)
    (hfunction : function.shape = .arrow ∨ function.shape = .functionExpression)
    (hnone : function.child? "parameters" = none) :
    k.parameters = (function.child? "parameter").toList.map found := by
  rw [h.parameters, Handle.parameters, focus_found]
  exact congrArg (List.map found) (Tree.parameters_of_no_list hfunction hnone)

/-- The result type of the answer is the first named child of the function's `return_type` child. -/
theorem resultType_eq
    (h : k.AnswersForFunction declarator function)
    (hfunction : function.shape = .arrow ∨ function.shape = .functionExpression) :
    k.resultType =
      ofNode? .typeReference ((function.child? "return_type").bind Tree.firstNamed?) := by
  rw [h.resultType, Handle.resultType, focus_found, Option.bind_some,
    Tree.resultType?_of_function hfunction]

/-- The body of the answer is the function's `body` child. -/
theorem body_eq
    (h : k.AnswersForFunction declarator function)
    (hfunction : function.shape = .arrow ∨ function.shape = .functionExpression) :
    k.body = ofNode? .generic (function.child? "body") := by
  rw [h.body, Handle.body, focus_found, Option.bind_some, Tree.body?_of_function hfunction]

end AnswersForFunction

/-- A handle is on the function of a name that an entry is.  It shows as the whole entry, and on a
variable statement it answers for the first declarator that binds the name to a function. -/
structure IsOnFunction (h : Handle) (name : String) (entry : Node) : Prop where
  node : h.node = some entry
  display : h.display = entry.text
  whole : entry.shape ≠ .variableStatement → h = found entry
  narrowed : entry.shape = .variableStatement →
    h.name? = some name ∧
      ∃ declarator function,
        IsFirst (Tree.BindsToFunction name) entry.declarators declarator ∧
          declarator.child? "value" = some function ∧
          h.AnswersForFunction declarator function

/-- A narrowed handle answers for the declarator that it is narrowed to. -/
theorem answersForFunction_narrowed
    {declarator function : Node}
    (hshape : declarator.shape = .declarator)
    (hvalue : declarator.child? "value" = some function)
    (hfunction : function.shape = .arrow ∨ function.shape = .functionExpression) :
    (h.narrowed declarator).AnswersForFunction declarator function := by
  obtain ⟨hparameters, hresult, hbody⟩ := Tree.callable_of_declarator hshape hvalue hfunction
  refine ⟨⟨?_, ?_, ?_⟩, ?_, ?_, ?_⟩
  · rw [name?, focus_narrowed, Option.bind_some, Tree.declaredName?, hshape]
  · rw [value, focus_narrowed, Option.bind_some, Tree.initializer?, hshape]
  · rw [declaredType, focus_narrowed, Option.bind_some, Tree.declaredType?, hshape]
  · simp only [parameters, focus_narrowed, focus_found, hparameters]
  · simp only [resultType, focus_narrowed, focus_found, Option.bind_some, hresult]
  · simp only [body, focus_narrowed, focus_found, Option.bind_some, hbody]

/-- What an entry is taken for when a function of a name is looked for. -/
def functionAt? (name : String) (withVariables : Bool) (entry : Node) : Option Handle :=
  if isFunctionEntry withVariables entry = true then (found entry).asFunction? name else none

theorem functions_eq
    (withVariables : Bool) :
    h.functions withVariables = (h.entries.filter (isFunctionEntry withVariables)).map found := by
  unfold functions scopeWith entries
  cases h.node with
  | none =>
      rfl
  | some n =>
      rfl

theorem findFunction_eq
    (name : String)
    (withVariables : Bool) :
    h.findFunction name withVariables =
      (h.entries.findSome? (functionAt? name withVariables)).getD empty := by
  rw [findFunction, functions_eq, List.findSome?_map, ← List.head?_filterMap,
    List.filterMap_filter, List.head?_filterMap]
  rfl

theorem isFunctionEntry_true_iff :
    isFunctionEntry true entry = true ↔
      (entry.shape = .function ∨ entry.shape = .method) ∨
        (entry.shape = .variableStatement ∧ ∃ d ∈ entry.declarators, d.BindsFunction) := by
  unfold isFunctionEntry
  split
  · simp [*]
  · simp [*]
  · rename_i hshape
    rw [Bool.true_and, Bool.not_eq_true', Tree.isEmpty_bindings_eq_false_iff hshape]
    simp [hshape]
  · rename_i hfunction hmethod hvariable
    constructor
    · intro hlisted
      cases hlisted
    · rintro ((hshape | hshape) | ⟨hshape, _⟩)
      · exact absurd hshape hfunction
      · exact absurd hshape hmethod
      · exact absurd hshape hvariable

/-- A function or method is taken as it is. -/
theorem functionAt?_of_function
    (hshape : entry.shape = .function ∨ entry.shape = .method) :
    functionAt? name true entry =
      if entry.childText? "name" = some name then some (found entry) else none := by
  have hentry : isFunctionEntry true entry = true := isFunctionEntry_true_iff.mpr (Or.inl hshape)
  rw [functionAt?, if_pos hentry, asFunction?, node_found, Option.bind_some]
  rcases hshape with hshape | hshape <;> simp [hshape, Tree.declaredName?]

/-- A variable statement is narrowed to a declarator that binds the name to a function. -/
theorem functionAt?_of_variable
    (hshape : entry.shape = .variableStatement) :
    functionAt? name true entry =
      (entry.functionDeclarator? name).map (found entry).narrowed := by
  cases hdeclarator : entry.functionDeclarator? name with
  | none =>
      simp [functionAt?, asFunction?, hshape, hdeclarator]
  | some d =>
      obtain ⟨_, hmem, _, hcallable⟩ := Tree.ofDeclarator?_of_functionDeclarator? hdeclarator
      have hbinds := Callable.bindsFunction_of_ofDeclarator? hcallable
      have hentry : isFunctionEntry true entry = true :=
        isFunctionEntry_true_iff.mpr (Or.inr ⟨hshape, d, hmem, hbinds⟩)
      rw [functionAt?, if_pos hentry, asFunction?, node_found, Option.bind_some, if_pos hshape,
        hdeclarator]

/-- Nothing but functions, methods and variable statements is taken for a function. -/
theorem functionAt?_of_other
    (hfunction : ¬ (entry.shape = .function ∨ entry.shape = .method))
    (hvariable : entry.shape ≠ .variableStatement) :
    functionAt? name true entry = none := by
  have hentry : ¬ isFunctionEntry true entry = true := by
    rw [isFunctionEntry_true_iff]
    rintro (hshape | ⟨hshape, _⟩)
    · exact hfunction hshape
    · exact hvariable hshape
  rw [functionAt?, if_neg hentry]

theorem isSome_functionAt?_iff
    (hnamed : ∀ d ∈ entry.declarators, (d.child? "name").isSome = true) :
    (functionAt? name true entry).isSome = true ↔ entry.IsFunctionCalled name := by
  unfold Tree.IsFunctionCalled
  by_cases hfunction : entry.shape = .function ∨ entry.shape = .method
  · have hvariable : entry.shape ≠ .variableStatement := by
      rcases hfunction with hshape | hshape <;> simp [hshape]
    rw [functionAt?_of_function hfunction]
    simp [hfunction, hvariable]
  · by_cases hvariable : entry.shape = .variableStatement
    · rw [functionAt?_of_variable hvariable, Option.isSome_map,
        Tree.isSome_functionDeclarator?_iff hvariable hnamed]
      simp [hvariable]
    · rw [functionAt?_of_other hfunction hvariable]
      simp [hfunction, hvariable]

/-- What an entry is taken for is on the function of the name that the entry is. -/
theorem isOnFunction_of_functionAt?
    {k : Handle}
    (hnamed : ∀ d ∈ entry.declarators, (d.child? "name").isSome = true)
    (hk : functionAt? name true entry = some k) :
    k.IsOnFunction name entry := by
  by_cases hvariable : entry.shape = .variableStatement
  · rw [functionAt?_of_variable hvariable] at hk
    obtain ⟨d, hd, rfl⟩ := Option.map_eq_some_iff.mp hk
    have hfirst := (Tree.functionDeclarator?_eq_some_iff hvariable hnamed).mp hd
    obtain ⟨hgoes, function, hvalue, hfunction⟩ := hfirst.satisfies
    have hanswers :=
      (found entry).answersForFunction_narrowed (Tree.shape_of_mem_declarators hfirst.mem) hvalue
        hfunction
    refine ⟨rfl, rfl, fun hshape => absurd hvariable hshape, fun _ => ?_⟩
    exact ⟨hanswers.name.trans hgoes, d, function, hfirst, hvalue, hanswers⟩
  · obtain rfl : k = found entry := by
      by_cases hfunction : entry.shape = .function ∨ entry.shape = .method
      · rw [functionAt?_of_function hfunction] at hk
        split at hk
        · exact (Option.some.inj hk).symm
        · cases hk
      · rw [functionAt?_of_other hfunction hvariable] at hk
        cases hk
    exact ⟨rfl, rfl, fun _ => rfl, fun hshape => absurd hshape hvariable⟩

/-- The functions without the variables are those with them, less the variable statements. -/
theorem functions_false_eq :
    h.functions false =
      (h.functions true).filter fun f => !f.node.any (·.shape == .variableStatement) := by
  rw [functions_eq, functions_eq, List.filter_map, List.filter_filter]
  congr 1
  apply List.filter_congr
  intro e _
  unfold isFunctionEntry
  cases hshape : e.shape <;> simp [hshape]

/-- A variable statement in scope is listed as a function when it binds one. -/
theorem mem_functions_true_iff
    (hentry : entry ∈ h.entries)
    (hshape : entry.shape = .variableStatement) :
    found entry ∈ h.functions true ↔ ∃ d ∈ entry.declarators, d.BindsFunction := by
  rw [functions_eq, List.mem_map]
  constructor
  · rintro ⟨e, he, hsame⟩
    obtain rfl : e = entry := Option.some.inj (congrArg Handle.node hsame)
    have hlisted := isFunctionEntry_true_iff.mp (List.mem_filter.mp he).2
    simpa [hshape] using hlisted
  · intro hbinds
    have hlisted := isFunctionEntry_true_iff.mpr (Or.inr ⟨hshape, hbinds⟩)
    exact ⟨entry, List.mem_filter.mpr ⟨hentry, hlisted⟩, rfl⟩

theorem isFunctionEntry_true_of_false
    (hentry : isFunctionEntry false entry = true) :
    isFunctionEntry true entry = true := by
  unfold isFunctionEntry at hentry ⊢
  split at hentry
  · rfl
  · rfl
  · cases hentry
  · cases hentry

/-- A function that is found without the variables is found with them. -/
theorem isEmpty_findFunction_true_of_false
    (hfound : (h.findFunction name false).isEmpty = false) :
    (h.findFunction name true).isEmpty = false := by
  cases hnode : h.node with
  | none =>
      rw [findFunction_eq, entries, hnode] at hfound
      cases hfound
  | some n =>
      cases hempty : (h.findFunction name true).isEmpty with
      | false =>
          rfl
      | true =>
          have hnone := (isEmpty_findFunction_iff hnode name true).mp hempty
          have hempty' : (h.findFunction name false).isEmpty = true :=
            (isEmpty_findFunction_iff hnode name false).mpr fun d hd hentry =>
              hnone d hd (isFunctionEntry_true_of_false hentry)
          exact hempty'.symm.trans hfound

/-- What is found is on the first function of the name, and where nothing is found there is none. -/
theorem findFunction_cases
    (name : String)
    (hnamed : ∀ e ∈ h.entries, ∀ d ∈ e.declarators, (d.child? "name").isSome = true) :
    (h.findFunction name true = empty ∧ ∀ e ∈ h.entries, ¬ e.IsFunctionCalled name) ∨
      ∃ entry,
        IsFirst (Tree.IsFunctionCalled name) h.entries entry ∧
          (h.findFunction name true).IsOnFunction name entry := by
  have hcalled : ∀ e ∈ h.entries,
      ((functionAt? name true e).isSome = true ↔ e.IsFunctionCalled name) :=
    fun e he => isSome_functionAt?_iff (hnamed e he)
  rw [findFunction_eq]
  cases hfind : h.entries.findSome? (functionAt? name true) with
  | none =>
      refine Or.inl ⟨rfl, fun e he hfunction => ?_⟩
      have hsome := (hcalled e he).mpr hfunction
      rw [List.findSome?_eq_none_iff.mp hfind e he] at hsome
      cases hsome
  | some k =>
      obtain ⟨entry, hfirst, hk⟩ := findSome?_eq_some_iff_isFirst.mp hfind
      refine Or.inr ⟨entry, (isFirst_congr hcalled).mp hfirst, ?_⟩
      exact isOnFunction_of_functionAt? (hnamed entry hfirst.mem) hk

/-- A function is looked for among the functions and methods in scope and the variables that bind
one: nothing is found when none has the name, and else the first that has it.  A variable statement
that is found is narrowed to the declarator that binds the name to a function.  Without the
variables the listing lacks just the variable statements that bind a function, and what it finds is
found with them too. -/
theorem findFunction_narrows_to_binding
    (h : Handle)
    (name : String)
    (hnamed : ∀ n, h.node = some n → n.DeclaratorsNamed) :
    ((h.findFunction name true).isEmpty = true ↔
      ∀ e ∈ h.entries, ¬ e.IsFunctionCalled name) ∧
    ((h.findFunction name true).isEmpty = false →
      ∃ entry,
        IsFirst (Tree.IsFunctionCalled name) h.entries entry ∧
          (h.findFunction name true).IsOnFunction name entry) ∧
    (h.functions false).Sublist (h.functions true) ∧
    (h.functions false =
      (h.functions true).filter fun f => !f.node.any (·.shape == .variableStatement)) ∧
    (∀ e ∈ h.entries, e.shape = .variableStatement →
      (found e ∈ h.functions true ↔ ∃ d ∈ e.declarators, d.BindsFunction)) ∧
    ((h.findFunction name false).isEmpty = false →
      (h.findFunction name true).isEmpty = false) := by
  have hdeclarators : ∀ e ∈ h.entries, ∀ d ∈ e.declarators, (d.child? "name").isSome = true := by
    intro e he
    cases hnode : h.node with
    | none =>
        simp [entries, hnode] at he
    | some n =>
        refine (hnamed n hnode).of_mem_scope ?_
        simpa [entries, hnode] using he
  have hlists := functions_false_eq (h := h)
  refine ⟨?_, ?_, ?_, hlists, fun e he hshape => mem_functions_true_iff he hshape,
    isEmpty_findFunction_true_of_false⟩
  · rcases findFunction_cases name hdeclarators with
      ⟨hempty, hnone⟩ | ⟨entry, hfirst, hon⟩
    · exact ⟨fun _ => hnone, fun _ => by rw [hempty, isEmpty_empty]⟩
    · have hfull : (h.findFunction name true).isEmpty = false := by
        rw [isEmpty, hon.node]
        rfl
      rw [hfull]
      constructor
      · intro hempty
        cases hempty
      · intro hnone
        exact absurd hfirst.satisfies (hnone entry hfirst.mem)
  · intro hfound
    rcases findFunction_cases name hdeclarators with ⟨hempty, _⟩ | hfirst
    · rw [hempty] at hfound
      cases hfound
    · exact hfirst
  · rw [hlists]
    exact List.filter_sublist

/-- The function `b` is found in a statement that begins with another function, and it answers with
its own name, parameters, result type and body. -/
theorem findFunction_narrows_to_b :
    (∀ n, sharedHandle.node = some n → n.DeclaratorsNamed) ∧
      (sharedHandle.findFunction "b" true).isEmpty = false ∧
      (sharedHandle.findFunction "b" true).name? = some "b" ∧
      (sharedHandle.findFunction "b" true).parameters.map display = ["x: X"] ∧
      (sharedHandle.findFunction "b" true).resultType.display = "Y" ∧
      (sharedHandle.findFunction "b" true).body.display = "x" ∧
      ∃ declarator function,
        declarator.BindsToFunction "b" ∧
          declarator.child? "value" = some function ∧
          (sharedHandle.findFunction "b" true).AnswersForFunction declarator function := by
  have hfound : (sharedHandle.findFunction "b" true).isEmpty = false := by decide
  obtain ⟨_, hon, _⟩ :=
    findFunction_narrows_to_binding sharedHandle "b" declaratorsNamed_sharedHandle
  obtain ⟨entry, _, hentry⟩ := hon hfound
  have hshape : entry.shape = .variableStatement := by
    have hshapes : (sharedHandle.findFunction "b" true).node.map Tree.shape =
        some .variableStatement := by
      decide
    simpa [hentry.node] using hshapes
  obtain ⟨hname, declarator, function, hfirst, hvalue, hanswers⟩ := hentry.narrowed hshape
  exact ⟨declaratorsNamed_sharedHandle, hfound, hname, by decide, by decide, by decide, declarator,
    function, hfirst.satisfies, hvalue, hanswers⟩

end Functions
end Handle
end SnippetRubric
