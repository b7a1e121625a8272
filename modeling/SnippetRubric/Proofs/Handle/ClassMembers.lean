import SnippetRubric.Proofs.Fragment.Reading
import SnippetRubric.Proofs.Handle.Grounded

/-!
# Two ways to the members of a class

The members of a class are listed by the class itself, which takes the children of its body by their
shape, and by the scope of its body, which takes the named children without the comments, looks
through exports, and then sorts out what counts as a function.  The two ways differ in what they
leave out, and in how they ask for a name.

In a class body as the grammar has it nothing is lost on either way
(`Tree.ClassBody.filter_isFunctionEntry`, `Tree.filter_statements_of_shape`), and both tests of a
name say the same of a method (`Handle.asFunction?_found`).  The main statement is
`Handle.methods_agree_with_body_scope`.
-/

namespace SnippetRubric
namespace Tree

/-- A class with a body that lists members as the grammar has it: its methods are named nodes, and
neither functions nor exports stand among them. -/
structure ClassBody (n body : Node) : Prop where
  isClass : n.shape = .classDecl
  child : n.child? "body" = some body
  isBody : body.shape = .classBody
  methodsNamed : ∀ c ∈ body.children, c.shape = .method → c.named = true
  noFunction : ∀ c ∈ body.children, c.shape ≠ .function
  noExport : ∀ c ∈ body.children, c.shape ≠ .exported

theorem shape_of_isComment
    {c : Node}
    (h : c.isComment = true) :
    c.shape = .other := by
  have hkind : c.kind = "comment" := by
    simpa [isComment] using h
  rw [shape, hkind]
  rfl

/-- Where all children of a shape are named, the statements of that shape are these children. -/
theorem filter_statements_of_shape
    {n : Node}
    {shape : Shape}
    (hshape : shape ≠ .other)
    (hnamed : ∀ c ∈ n.children, c.shape = shape → c.named = true) :
    n.statements.filter (fun c => c.shape == shape) = n.childrenOf shape := by
  rw [statements, childrenOf, List.filter_filter]
  apply List.filter_congr
  intro c hc
  by_cases hcshape : c.shape = shape
  · have hcomment : c.isComment = false := by
      rw [← Bool.not_eq_true]
      intro hcomment
      exact hshape (hcshape.symm.trans (shape_of_isComment hcomment))
    simp [hcshape, hnamed c hc hcshape, hcomment]
  · simp [hcshape]

namespace ClassBody

variable {n body : Node}

theorem classMembers
    (h : n.ClassBody body)
    (shape : Shape) :
    n.classMembers shape = body.childrenOf shape := by
  rw [Tree.classMembers, if_pos h.isClass, h.child]
  rfl

/-- Nothing in the body stands for another node. -/
theorem scope
    (h : n.ClassBody body) :
    body.scope = body.statements := by
  have hopens : body.opensScope = true := by
    simp [opensScope, h.isBody]
  have hself : ∀ c ∈ body.statements, c.unexported = c := by
    intro c hc
    exact unexported_of_ne (h.noExport c (List.mem_filter.mp hc).1)
  rw [Tree.scope, if_pos hopens, List.map_congr_left hself, List.map_id']

/-- What counts as a function in the body are its methods. -/
theorem filter_isFunctionEntry
    (h : n.ClassBody body) :
    body.scope.filter (Handle.isFunctionEntry false) = body.childrenOf .method := by
  have hentry :
      ∀ c ∈ body.statements, Handle.isFunctionEntry false c = (c.shape == .method) := by
    intro c hc
    have hfunction := h.noFunction c (List.mem_filter.mp hc).1
    unfold Handle.isFunctionEntry
    cases hshape : c.shape <;> simp_all
  rw [h.scope, List.filter_congr hentry]
  exact filter_statements_of_shape (by decide) h.methodsNamed

end ClassBody
end Tree

namespace Handle

/-- Only handles on variable statements are narrowed. -/
theorem Fitting.focus_eq
    {h : Handle}
    {n : Node}
    (hfit : h.Fitting)
    (hnode : h.node = some n)
    (hshape : n.shape ≠ .variableStatement) :
    h.focus = some n := by
  cases hbinding : h.binding with
  | none =>
      rw [focus, hbinding, hnode]
      rfl
  | some d =>
      obtain ⟨m, hm, hvariable, _⟩ := hfit.binding d hbinding
      obtain rfl : n = m := Option.some.inj (hnode.symm.trans hm)
      exact absurd hvariable hshape

/-- A node that is no variable statement is a function of a name just when it declares the name. -/
theorem asFunction?_found
    {d : Node}
    (hshape : d.shape ≠ .variableStatement)
    (name : String) :
    (found d).asFunction? name =
      Option.guard (fun k : Handle => k.node.any (·.declares name)) (found d) := by
  rw [asFunction?, node_found, Option.bind_some, if_neg hshape, Option.guard, node_found,
    Option.any_some, Tree.declares, if_neg hshape]
  by_cases hname : d.declaredName? = some name
  · simp [hname]
  · simp [hname]

/-- A search for a function and one for a declaration give the same answer in a listing without
variable statements. -/
theorem findSome?_asFunction?_map_found
    (name : String) :
    ∀ {entries : List Node}, (∀ d ∈ entries, d.shape ≠ .variableStatement) →
      (entries.map found).findSome? (·.asFunction? name) =
        (entries.map found).find? fun k => k.node.any (·.declares name)
  | [], _ => rfl
  | d :: entries, h => by
      have hfirst := asFunction?_found (h d (by simp)) name
      have hrest :=
        findSome?_asFunction?_map_found name fun e he => h e (List.mem_cons_of_mem d he)
      rw [List.map_cons, List.findSome?_cons, List.find?_cons, hfirst, hrest, Option.guard]
      cases (found d).node.any (·.declares name) with
      | true =>
          rfl
      | false =>
          rfl

section Class

variable {c : Handle} {n body : Node}

theorem body_eq
    (hbody : n.ClassBody body)
    (hfit : c.Fitting)
    (hnode : c.node = some n) :
    c.body = ofNode .generic body := by
  have hfocus := hfit.focus_eq hnode (by simp [hbody.isClass])
  rw [Handle.body, hfocus, Option.bind_some, Tree.body?, if_pos hbody.isClass, hbody.child]
  rfl

theorem membersOf_eq
    (hbody : n.ClassBody body)
    (hnode : c.node = some n)
    (shape : Shape) :
    c.membersOf shape = (body.childrenOf shape).map found := by
  rw [membersOf, hnode]
  simp only [hbody.classMembers]

theorem methods_eq_functions
    (hbody : n.ClassBody body)
    (hfit : c.Fitting)
    (hnode : c.node = some n) :
    c.methods = c.body.functions false := by
  rw [methods, membersOf_eq hbody hnode, body_eq hbody hfit hnode, ← hbody.filter_isFunctionEntry]
  rfl

theorem properties_eq_filter_statements
    (hbody : n.ClassBody body)
    (hfit : c.Fitting)
    (hnode : c.node = some n)
    (hnamed : ∀ d ∈ body.children, d.shape = .classProperty → d.named = true) :
    c.properties = c.body.statements.filter fun k => k.node.any (·.shape == .classProperty) := by
  have hstatements : c.body.statements = body.statements.map found := by
    rw [body_eq hbody hfit hnode, ← hbody.scope]
    rfl
  rw [properties, membersOf_eq hbody hnode, hstatements, List.filter_map,
    ← Tree.filter_statements_of_shape (by decide) hnamed]
  rfl

theorem findMethod_eq_findFunction
    (hbody : n.ClassBody body)
    (hfit : c.Fitting)
    (hnode : c.node = some n)
    (name : String) :
    c.findMethod name = c.body.findFunction name false := by
  have hshapes : ∀ d ∈ body.childrenOf .method, d.shape ≠ .variableStatement := by
    intro d hd
    have hshape : d.shape = .method := by
      simpa using (List.mem_filter.mp hd).2
    simp [hshape]
  rw [findMethod, findFunction, firstDeclaring, ← methods_eq_functions hbody hfit hnode, methods,
    membersOf_eq hbody hnode, findSome?_asFunction?_map_found name hshapes]

/-- Anything but a class has no members. -/
theorem membersOf_eq_nil
    (hclass : ∀ n, c.node = some n → n.shape ≠ .classDecl)
    (shape : Shape) :
    c.membersOf shape = [] := by
  rw [membersOf]
  cases hnode : c.node with
  | none =>
      rfl
  | some n =>
      simp [Tree.classMembers, hclass n hnode]

end Class

/-- The methods that a class lists are the functions in the scope of its body, handle by handle, its
properties are the statements of its body that are properties, and a method is found by name as the
function of that name in the body.  A handle on anything but a class lists neither. -/
theorem methods_agree_with_body_scope
    (c : Handle) :
    (∀ n body, c.Fitting → c.node = some n → n.ClassBody body →
      c.methods = c.body.functions false ∧
        ((∀ d ∈ body.children, d.shape = .classProperty → d.named = true) →
          c.properties =
            c.body.statements.filter fun k => k.node.any (·.shape == .classProperty)) ∧
        ∀ name, c.findMethod name = c.body.findFunction name false) ∧
    ((∀ n, c.node = some n → n.shape ≠ .classDecl) → c.methods = [] ∧ c.properties = []) := by
  constructor
  · intro n body hfit hnode hbody
    exact ⟨methods_eq_functions hbody hfit hnode, properties_eq_filter_statements hbody hfit hnode,
      findMethod_eq_findFunction hbody hfit hnode⟩
  · intro hclass
    exact ⟨membersOf_eq_nil hclass _, membersOf_eq_nil hclass _⟩

section Samples

/-- The class `class _ { a; m() {} /**/ }` as a parser sees it. -/
def memberClassSample : ParseTree :=
  FragmentContext.classSample 26
    [FragmentContext.propertySample 10,
     .node ⟨";", none, false, false, ⟨11, 12⟩⟩ [],
     .node ⟨"method_definition", none, true, false, ⟨13, 19⟩⟩
      [.node ⟨"property_identifier", some "name", true, false, ⟨13, 14⟩⟩ [],
       .node ⟨"formal_parameters", some "parameters", true, false, ⟨14, 16⟩⟩ [],
       .node ⟨"statement_block", some "body", true, false, ⟨17, 19⟩⟩ []],
     .node ⟨"comment", none, true, false, ⟨20, 24⟩⟩ []]

/-- The handle on the class. -/
def memberClass : Handle :=
  ofSource (fun _ => memberClassSample) "class _ \x7b a; m() \x7b\x7d /**/ \x7d"

/-- The node of the class. -/
def memberClassNode : Node := memberClass.node.get (by decide)

/-- The body of the class. -/
def memberClassBody : Node := (memberClassNode.child? "body").get (by decide)

theorem classBody_memberClassNode : memberClassNode.ClassBody memberClassBody where
  isClass := by decide
  child := (Option.some_get _).symm
  isBody := by decide
  methodsNamed := by decide
  noFunction := by decide
  noExport := by decide

/-- The class finds its method on both ways, beside a property and a comment, and its body, which is
no class, lists no members. -/
theorem methods_agree_in_memberClass :
    memberClass.Fitting ∧
      memberClass.node = some memberClassNode ∧
      memberClassNode.ClassBody memberClassBody ∧
      memberClass.methods = memberClass.body.functions false ∧
      memberClass.methods.map name? = [some "m"] ∧
      memberClass.properties =
        memberClass.body.statements.filter (fun k => k.node.any (·.shape == .classProperty)) ∧
      memberClass.properties.map name? = [some "a"] ∧
      memberClass.findMethod "m" = memberClass.body.findFunction "m" false ∧
      (memberClass.findMethod "m").isEmpty = false ∧
      memberClass.body.methods = [] := by
  have hfit : memberClass.Fitting := fitting_generic _
  have hnode : memberClass.node = some memberClassNode := (Option.some_get _).symm
  obtain ⟨hmethods, hproperties, hfind⟩ :=
    (methods_agree_with_body_scope memberClass).1 _ _ hfit hnode classBody_memberClassNode
  have hbody : ∀ n, memberClass.body.node = some n → n.shape ≠ .classDecl := by
    intro n hn
    rw [body_eq classBody_memberClassNode hfit hnode] at hn
    obtain rfl : memberClassBody = n := Option.some.inj hn
    decide
  exact ⟨hfit, hnode, classBody_memberClassNode, hmethods, by decide, hproperties (by decide),
    by decide, hfind "m", by decide, ((methods_agree_with_body_scope memberClass.body).2 hbody).1⟩

end Samples

end Handle
end SnippetRubric
