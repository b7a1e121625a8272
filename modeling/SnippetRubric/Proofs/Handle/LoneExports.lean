import SnippetRubric.Handle.TypeMember
import SnippetRubric.Proofs.Handle.Exports

/-!
# A lone exported declaration

The handle of a program whose only statement is exported is on the export statement.  A lookup in its
scope looks through the statement, but a question about the declaration itself does not: it is asked
of the node that the handle is on, and an export statement is no declaration
(`Handle.tellsNothing_of_exported`).

The declaration is the one entry of the scope, and there it tells what it tells without the export.
The reason is that what a declaration tells of itself lies below it, so that nothing depends on the
field that the declaration fills (`Query.answers_inField`, `Handle.tellsAlike_of_relocated`).

The main statement is `Handle.lone_export_tells_through_scope`, and
`Handle.lone_export_of_functionSample` is an instance where the two handles differ.
-/

namespace SnippetRubric

section InField

variable (n : Node) (field : Option String)

/-- What is read below the function of a callable does not depend on the field that the function
fills. -/
theorem Callable.read_ofNode?_inField
    {α : Type}
    (read : Option Callable → α)
    (hread : ∀ function binding,
      read (some ⟨Tree.inField field function, binding⟩) = read (some ⟨function, binding⟩)) :
    read (ofNode? (n.inField field)) = read (ofNode? n) := by
  have hshape : (n.inField field).shape = n.shape := rfl
  unfold ofNode?
  rw [hshape]
  -- Only a callable that is the node itself holds the field; one bound by a declarator does not.
  cases n.shape with
  | function | method | arrow | functionExpression =>
      exact hread n none
  | _ =>
      rfl

namespace Tree

theorem resultType?_inField :
    (n.inField field).resultType? = n.resultType? :=
  Callable.read_ofNode?_inField n field (·.bind Callable.resultType?) fun _ _ => rfl

theorem body?_inField :
    (n.inField field).body? = n.body? := by
  have hbody := Callable.read_ofNode?_inField n field (·.bind Callable.body?) fun _ _ => rfl
  rw [body?, body?, hbody]
  rfl

theorem parameters_inField :
    (n.inField field).parameters = n.parameters :=
  Callable.read_ofNode?_inField n field (fun c => (c.map Callable.parameters).getD []) fun _ _ => rfl

theorem declaredType?_inField :
    (n.inField field).declaredType? = n.declaredType? := by
  have hshape : (n.inField field).shape = n.shape := rfl
  rw [declaredType?, declaredType?, hshape, resultType?_inField]
  rfl

end Tree
end InField

namespace Query

/-- The queries that ask a declaration about itself. -/
def readsDeclaration : Query → Bool
  | value | declaredType | resultType | parameters | body | methods | properties => true
  | _ => false

/-- The answer to a query about a declaration where there is nothing to tell. -/
def silence : Query → List Handle
  | value => [Handle.empty]
  | declaredType | resultType => [Handle.emptyIn .typeReference]
  | body => [Handle.emptyIn .generic]
  | _ => []

theorem eq_emptyIn_of_mem_silence
    {query : Query}
    {c : Handle}
    (hc : c ∈ query.silence) :
    ∃ context, c = Handle.emptyIn context := by
  cases query with
  | value | declaredType | resultType | body =>
      exact ⟨_, List.mem_singleton.mp hc⟩
  | _ =>
      cases hc

/-- What a declaration tells of itself does not depend on the field that it fills. -/
theorem answers_inField
    {query : Query}
    (hquery : query.readsDeclaration = true)
    (context : FragmentContext)
    (field : Option String)
    (n : Node) :
    query.answers (Handle.ofNode context (n.inField field)) =
      query.answers (Handle.ofNode context n) := by
  cases query with
  | value | methods | properties =>
      rfl
  | declaredType =>
      exact congrArg (fun type => [Handle.ofNode? .typeReference type])
        (Tree.declaredType?_inField n field)
  | resultType =>
      exact congrArg (fun type => [Handle.ofNode? .typeReference type])
        (Tree.resultType?_inField n field)
  | parameters =>
      exact congrArg (List.map Handle.found) (Tree.parameters_inField n field)
  | body =>
      exact congrArg (fun body => [Handle.ofNode? .generic body]) (Tree.body?_inField n field)
  | _ =>
      cases hquery

end Query

namespace Handle

/-- Two handles tell the same of their declarations, up to the places of nodes. -/
structure TellsAlike (h k : Handle) : Prop where
  name : h.name? = k.name?
  answers : ∀ query : Query, query.readsDeclaration = true →
    List.Forall₂ (HandleRel Tree.Displaced) (query.answers h) (query.answers k)
  members : ∀ parse expected, h.hasMember parse expected = k.hasMember parse expected

/-- A handle tells nothing of a declaration, except for a name perhaps. -/
structure TellsNothing (h : Handle) : Prop where
  answers : ∀ query : Query, query.readsDeclaration = true → query.answers h = query.silence
  members : ∀ parse expected, h.hasMember parse expected = false

section Silence

/-- A listing has no empty handles in it, so that it is empty itself where all of them are. -/
theorem listing_eq_nil
    {listing : List Handle}
    (node : Option Node)
    (entries : Node → List Node)
    (hlisting : listing = match node with
      | some n => (entries n).map found
      | none => [])
    (hempty : ∀ k ∈ listing, k.isEmpty = true) :
    listing = [] := by
  subst hlisting
  cases node with
  | none =>
      rfl
  | some n =>
      refine List.eq_nil_iff_forall_not_mem.mpr fun k hk => ?_
      have hk' := hempty k hk
      obtain ⟨c, _, rfl⟩ := List.mem_map.mp hk
      cases hk'

theorem ofNode?_of_isEmpty
    {context : FragmentContext}
    {n : Option Node}
    (hempty : (ofNode? context n).isEmpty = true) :
    ofNode? context n = emptyIn context := by
  cases n with
  | none =>
      rfl
  | some n =>
      cases hempty

theorem found?_of_isEmpty
    {n : Option Node}
    (hempty : (found? n).isEmpty = true) :
    found? n = empty := by
  cases n with
  | none =>
      rfl
  | some n =>
      cases hempty

/-- A declaration has nothing to tell just when all that it answers with is empty. -/
theorem answers_eq_silence_iff
    (h : Handle)
    {query : Query}
    (hquery : query.readsDeclaration = true) :
    query.answers h = query.silence ↔ ∀ k ∈ query.answers h, k.isEmpty = true := by
  constructor
  · intro hsilence k hk
    rw [hsilence] at hk
    obtain ⟨context, rfl⟩ := Query.eq_emptyIn_of_mem_silence hk
    rfl
  · intro hempty
    cases query with
    | value =>
        exact congrArg (fun k => [k])
          (found?_of_isEmpty (hempty _ (List.mem_singleton.mpr rfl)))
    | declaredType | resultType | body =>
        exact congrArg (fun k => [k])
          (ofNode?_of_isEmpty (hempty _ (List.mem_singleton.mpr rfl)))
    | parameters =>
        exact listing_eq_nil h.focus Tree.parameters rfl hempty
    | methods =>
        exact listing_eq_nil h.node (·.classMembers .method) rfl hempty
    | properties =>
        exact listing_eq_nil h.node (·.classMembers .classProperty) rfl hempty
    | _ =>
        cases hquery

end Silence

section LoneExports

variable {d e : Node}

/-- A declaration at top level is compared with texts as they are. -/
theorem contextOf_of_isDeclaration
    (h : d.isDeclaration = true) :
    contextOf d.shape = .generic := by
  rcases Tree.isDeclaration_cases h with h | h | h | h | h <;> rw [h] <;> rfl

/-- Nodes that differ in their places only tell the same, whatever field each of them fills. -/
theorem tellsAlike_of_relocated
    (hrel : d.Relocated e)
    (context : FragmentContext) :
    (ofNode context d).TellsAlike (ofNode context e) where
  name := Tree.simulation_relocated.declaredName_eq hrel
  answers := fun query hquery => by
    rw [← Query.answers_inField hquery context e.field d]
    exact Tree.pointwise_displaced.simulation.answers (HandleRel.ofNode context hrel.displaced) query
  members := fun parse expected =>
    Tree.simulation_relocated.hasMember_eq (HandleRel.ofNode context hrel) parse expected

/-- An export statement is no declaration. -/
theorem tellsNothing_of_exported
    (hexported : e.shape = .exported)
    (context : FragmentContext) :
    (ofNode context e).TellsNothing where
  answers := fun query hquery => by
    have hcallable : Callable.ofNode? e = none := by
      simp [Callable.ofNode?, hexported]
    have hmembers : ∀ shape, (ofNode context e).membersOf shape = [] := by
      intro shape
      simp [membersOf, ofNode, Tree.classMembers, hexported]
    cases query with
    | value =>
        simp [Query.answers, Query.silence, value, focus, ofNode, found?, Tree.initializer?,
          hexported]
    | declaredType =>
        simp [Query.answers, Query.silence, declaredType, focus, ofNode, ofNode?, emptyIn,
          Tree.declaredType?, Tree.resultType?, hexported, hcallable]
    | resultType =>
        simp [Query.answers, Query.silence, resultType, focus, ofNode, ofNode?, emptyIn,
          Tree.resultType?, hcallable]
    | parameters =>
        simp [Query.answers, Query.silence, parameters, focus, ofNode, Tree.parameters, hcallable]
    | body =>
        simp [Query.answers, Query.silence, body, focus, ofNode, ofNode?, emptyIn, Tree.body?,
          hexported, hcallable]
    | methods | properties =>
        exact hmembers _
    | _ =>
        cases hquery
  members := fun parse expected => by
    simp [hasMember, focus, ofNode, Tree.typeMember?, Tree.typeLiteral?, Tree.literalCandidate?,
      hexported]

/-- Where nothing is told, another handle tells the same on a query just when its answer is empty. -/
theorem TellsNothing.answers_alike_iff
    {h k : Handle}
    (hnothing : k.TellsNothing)
    {query : Query}
    (hquery : query.readsDeclaration = true) :
    List.Forall₂ (HandleRel Tree.Displaced) (query.answers h) (query.answers k) ↔
      ∀ c ∈ query.answers h, c.isEmpty = true := by
  rw [← answers_eq_silence_iff h hquery, hnothing.answers query hquery]
  constructor
  · intro halike
    have hlists : (query.answers h).map isEmpty = query.silence.map isEmpty := by
      rw [← List.forall₂_eq_eq_eq]
      exact halike.map fun _ _ hrel => hrel.isEmpty_eq
    have hempty : ∀ b ∈ (query.answers h).map isEmpty, b = true := by
      rw [hlists, List.forall_mem_map]
      intro c hc
      obtain ⟨context, rfl⟩ := Query.eq_emptyIn_of_mem_silence hc
      rfl
    exact (answers_eq_silence_iff h hquery).mpr (List.forall_mem_map.mp hempty)
  · intro hsame
    rw [hsame]
    refine List.forall₂_same.mpr fun c hc => ?_
    obtain ⟨context, rfl⟩ := Query.eq_emptyIn_of_mem_silence hc
    exact ⟨.none, rfl, .none⟩

/-- A program whose only statement is an exported declaration has a handle that tells nothing of the
declaration, so that it tells the same as the handle of the plain program just where that one has
nothing to tell.  What the plain handle tells is told by the only entry of the scope. -/
theorem lone_export_tells_through_scope
    (parse : Parser)
    (source source' : String)
    (root root' d e : Node)
    (hblank : Text.isBlank source = false)
    (hblank' : Text.isBlank source' = false)
    (hcopy : (parse source).copy source = .ok root)
    (hcopy' : (parse source').copy source' = .ok root')
    (hplain : root.singleStatement? = some d)
    (hexported : root'.singleStatement? = some e)
    (hdeclaration : d.isDeclaration = true)
    (hexports : e.Exports d) :
    (∃ entry, (ofSource parse source').statements = [entry] ∧
      (ofSource parse source).TellsAlike entry) ∧
    (ofSource parse source').node = some e ∧
    (ofSource parse source').name? = e.childText? "name" ∧
    (ofSource parse source').TellsNothing ∧
    ∀ query : Query, query.readsDeclaration = true →
      (List.Forall₂ (HandleRel Tree.Displaced) (query.answers (ofSource parse source))
          (query.answers (ofSource parse source')) ↔
        ∀ c ∈ query.answers (ofSource parse source), c.isEmpty = true) := by
  have hnode := node_ofSource_of_copy hblank hcopy
  have hnode' := node_ofSource_of_copy hblank' hcopy'
  rw [hplain, Option.getD_some] at hnode
  rw [hexported, Option.getD_some] at hnode'
  have hsource : ofSource parse source = ofNode .generic d :=
    congrArg (ofNode? .generic) hnode
  have hsource' : ofSource parse source' = ofNode .generic e :=
    congrArg (ofNode? .generic) hnode'
  have hnothing : (ofSource parse source').TellsNothing := by
    rw [hsource']
    exact tellsNothing_of_exported hexports.shape .generic
  refine ⟨⟨found e.unexported, ?_, ?_⟩, hnode', ?_, hnothing, fun query hquery =>
    hnothing.answers_alike_iff hquery⟩
  · simp [statements, hnode', Tree.scope, Tree.opensScope, hexports.shape]
  · have hshape : d.shape = e.unexported.shape :=
      Tree.simulation_relocated.shape_eq hexports.unexported
    rw [hsource, found, ← hshape, contextOf_of_isDeclaration hdeclaration]
    exact tellsAlike_of_relocated hexports.unexported .generic
  · rw [hsource']
    simp [name?, focus, ofNode, Tree.declaredName?, hexports.shape]

end LoneExports

section Samples

/-- The source of a function with one parameter and an empty body. -/
def functionText : String := "function ef(a) \x7b\x7d"

/-- The source with the function exported. -/
def exportText : String := "export " ++ functionText

/-- The function as a parser sees it at the start of a text. -/
def functionSample : ParseTree :=
  .node ⟨"function_declaration", none, true, false, ⟨0, 17⟩⟩
    [.node ⟨"function", none, false, false, ⟨0, 8⟩⟩ [],
     .node ⟨"identifier", some "name", true, false, ⟨9, 11⟩⟩ [],
     .node ⟨"formal_parameters", some "parameters", true, false, ⟨11, 14⟩⟩
      [.node ⟨"(", none, false, false, ⟨11, 12⟩⟩ [],
       .node ⟨"required_parameter", none, true, false, ⟨12, 13⟩⟩
        [.node ⟨"identifier", some "pattern", true, false, ⟨12, 13⟩⟩ []],
       .node ⟨")", none, false, false, ⟨13, 14⟩⟩ []],
     .node ⟨"statement_block", some "body", true, false, ⟨15, 17⟩⟩
      [.node ⟨"\x7b", none, false, false, ⟨15, 16⟩⟩ [],
       .node ⟨"\x7d", none, false, false, ⟨16, 17⟩⟩ []]]

/-- The export statement that holds the function. -/
def exportSample : ParseTree :=
  .node ⟨"export_statement", none, true, false, ⟨0, 24⟩⟩
    [.node ⟨"export", none, false, false, ⟨0, 6⟩⟩ [],
     .node { (functionSample.shifted 7).label with field := some "declaration" }
      (functionSample.shifted 7).children]

/-- A parser that knows the two sources. -/
def loneExportParser : Parser := fun text =>
  if text = functionText then programSample 17 [functionSample] else programSample 24 [exportSample]

theorem exports_functionSample :
    (exportSample.excerpted exportText).Exports (functionSample.excerpted functionText) := by
  have hsize : "export ".utf8ByteSize = 7 := by
    decide
  have hshifted := Tree.displaced_shifted "export " functionText functionSample
  rw [hsize] at hshifted
  have hdisplaced : (functionSample.excerpted functionText).Displaced
      ((functionSample.shifted 7).excerpted exportText) :=
    hshifted.symm
  have hheld : (exportSample.excerpted exportText).child? "declaration" =
      some (((functionSample.shifted 7).excerpted exportText).inField (some "declaration")) :=
    rfl
  exact ⟨by decide, by decide, _, hheld, hdisplaced.inField (some "declaration")⟩

/-- The entry of the scope tells what the plain handle tells, the function's name for example. -/
theorem lone_export_tells_function :
    ∃ entry, (ofSource loneExportParser exportText).statements = [entry] ∧
      (ofSource loneExportParser functionText).TellsAlike entry ∧
      entry.name? = some "ef" ∧
      (ofSource loneExportParser exportText).TellsNothing := by
  obtain ⟨⟨entry, hentry, halike⟩, _, _, hnothing, _⟩ :=
    lone_export_tells_through_scope loneExportParser functionText exportText _ _
      (functionSample.excerpted functionText) (exportSample.excerpted exportText) (by decide)
      (by decide) rfl rfl rfl rfl (by decide) exports_functionSample
  refine ⟨entry, hentry, halike, ?_, hnothing⟩
  rw [← halike.name]
  decide

/-- The handles of the two programs differ: the plain one tells the function's name, its parameter
and its body, and the one on the export statement tells none of them. -/
theorem lone_export_of_functionSample :
    (ofSource loneExportParser functionText).node = some (functionSample.excerpted functionText) ∧
      (ofSource loneExportParser exportText).node = some (exportSample.excerpted exportText) ∧
      (functionSample.excerpted functionText).isDeclaration = true ∧
      (exportSample.excerpted exportText).Exports (functionSample.excerpted functionText) ∧
      (ofSource loneExportParser functionText).name? = some "ef" ∧
      (ofSource loneExportParser exportText).name? = none ∧
      (ofSource loneExportParser functionText).parameters.map name? = [some "a"] ∧
      (ofSource loneExportParser exportText).parameters = [] ∧
      (ofSource loneExportParser functionText).body.isEmpty = false ∧
      (ofSource loneExportParser exportText).body.isEmpty = true ∧
      ¬ (ofSource loneExportParser functionText).TellsAlike
        (ofSource loneExportParser exportText) := by
  have hname : (ofSource loneExportParser functionText).name? = some "ef" := by
    decide
  have hname' : (ofSource loneExportParser exportText).name? = none := by
    decide
  refine ⟨rfl, rfl, by decide, exports_functionSample, hname, hname', by decide, rfl, by decide,
    by decide, fun halike => ?_⟩
  have hsame := halike.name
  rw [hname, hname'] at hsame
  cases hsame

end Samples

end Handle
end SnippetRubric
