import SnippetRubric.Proofs.Rubric.Resolution
import SnippetRubric.Proofs.Simulation.Node

/-!
# Simulations of handles

Handles are related when they are on related nodes, with the same context and related bindings.
Every step carries related handles to related handles (`Simulation.apply`), and every expectation is
met on both or on neither (`Simulation.judge_passed_iff`).  A whole selection keeps handles related
by induction on its steps, so that a check passes on two sources with related handles together
(`Simulation.evaluate_passed_iff`).  Where related nodes have equal texts, a check that fails does so
for the same reason (`Simulation.follow_eq`).
-/

namespace SnippetRubric

/-- Programs with related statements have related single statements. -/
theorem Tree.singleStatement_rel
    {R : Node → Node → Prop}
    {a b : Node}
    (hstatements : List.Forall₂ R a.statements b.statements) :
    Option.Rel R a.singleStatement? b.singleStatement? := by
  unfold Tree.singleStatement?
  generalize a.statements = statements₁, b.statements = statements₂ at hstatements ⊢
  cases hstatements with
  | nil =>
      exact .none
  | cons hfirst hrest =>
      cases hrest with
      | nil =>
          exact .some hfirst
      | cons =>
          exact .none

/-- Handles on related nodes, with the same context and related bindings. -/
structure HandleRel (R : Node → Node → Prop) (h k : Handle) : Prop where
  node : Option.Rel R h.node k.node
  context : h.context = k.context
  binding : Option.Rel R h.binding k.binding

namespace HandleRel

variable {R : Node → Node → Prop} {h k : Handle}

theorem isEmpty_eq
    (hrel : HandleRel R h k) :
    h.isEmpty = k.isEmpty := by
  rw [Handle.isEmpty, Handle.isEmpty, ← Option.not_isSome, ← Option.not_isSome,
    hrel.node.isSome_eq]

theorem focus
    (hrel : HandleRel R h k) :
    Option.Rel R h.focus k.focus :=
  hrel.binding.or hrel.node

theorem empty : HandleRel R Handle.empty Handle.empty :=
  ⟨.none, rfl, .none⟩

theorem ofNode?
    (context : FragmentContext)
    {x y : Option Node}
    (hxy : Option.Rel R x y) :
    HandleRel R (Handle.ofNode? context x) (Handle.ofNode? context y) :=
  ⟨hxy, rfl, .none⟩

theorem ofNode
    (context : FragmentContext)
    {a b : Node}
    (hab : R a b) :
    HandleRel R (Handle.ofNode context a) (Handle.ofNode context b) :=
  ⟨.some hab, rfl, .none⟩

end HandleRel

namespace Simulation

variable {R : Node → Node → Prop} (sim : Simulation R) {h k : Handle}
include sim

section Listings

theorem found
    {a b : Node}
    (hab : R a b) :
    HandleRel R (Handle.found a) (Handle.found b) := by
  unfold Handle.found
  rw [sim.shape_eq hab]
  exact HandleRel.ofNode _ hab

/-- Related scopes list related handles, for a test that gives the same answer on related nodes. -/
theorem scopeWith
    (hrel : HandleRel R h k)
    {keep : Node → Bool}
    (hkeep : ∀ a b, R a b → keep a = keep b) :
    List.Forall₂ (HandleRel R) (h.scopeWith keep) (k.scopeWith keep) := by
  unfold Handle.scopeWith
  rcases hrel.node.eq_none_or_eq_some with ⟨ha, hb⟩ | ⟨a, b, ha, hb, hab⟩
  · rw [ha, hb]
    exact .nil
  · rw [ha, hb]
    exact ((sim.scope hab).filter hkeep).map fun _ _ hcd => sim.found hcd

theorem scopeWithShape
    (hrel : HandleRel R h k)
    (shape : Shape) :
    List.Forall₂ (HandleRel R) (h.scopeWith (·.shape == shape)) (k.scopeWith (·.shape == shape)) :=
  sim.scopeWith hrel fun _ _ hab => by rw [sim.shape_eq hab]

theorem functions
    (hrel : HandleRel R h k)
    (withVariables : Bool) :
    List.Forall₂ (HandleRel R) (h.functions withVariables) (k.functions withVariables) := by
  exact sim.scopeWith hrel fun _ _ hab => sim.scopeSimulation.isFunctionEntry_eq hab withVariables

theorem membersOf
    (hrel : HandleRel R h k)
    (shape : Shape)
    (hshape : shape ≠ .other) :
    List.Forall₂ (HandleRel R) (h.membersOf shape) (k.membersOf shape) := by
  unfold Handle.membersOf
  rcases hrel.node.eq_none_or_eq_some with ⟨ha, hb⟩ | ⟨a, b, ha, hb, hab⟩
  · rw [ha, hb]
    exact .nil
  · rw [ha, hb]
    exact (sim.classMembers hab shape hshape).map fun _ _ hcd => sim.found hcd

theorem handleParameters
    (hrel : HandleRel R h k) :
    List.Forall₂ (HandleRel R) h.parameters k.parameters := by
  unfold Handle.parameters
  rcases hrel.focus.eq_none_or_eq_some with ⟨ha, hb⟩ | ⟨a, b, ha, hb, hab⟩
  · rw [ha, hb]
    exact .nil
  · rw [ha, hb]
    exact (sim.parameters hab).map fun _ _ hcd => sim.found hcd

/-- Related chains have related conditions, and an empty handle for the last `else` in both or in
neither. -/
theorem conditions
    (hrel : HandleRel R h k) :
    List.Forall₂ (HandleRel R) h.conditions k.conditions := by
  unfold Handle.conditions
  have hchain := hrel.node.bind fun _ _ hab => sim.chainOfNode hab
  rcases hchain.eq_none_or_eq_some with ⟨ha, hb⟩ | ⟨c, d, ha, hb, hcd⟩
  · rw [ha, hb]
    exact .nil
  · rw [ha, hb]
    exact List.rel_append
      ((sim.chainConditions hcd).map fun _ _ hlink => HandleRel.ofNode _ hlink)
      (hcd.2.toList.map fun _ _ _ => HandleRel.empty)

theorem branches
    (hrel : HandleRel R h k) :
    List.Forall₂ (HandleRel R) h.branches k.branches := by
  unfold Handle.branches
  have hchain := hrel.node.bind fun _ _ hab => sim.chainOfNode hab
  rcases hchain.eq_none_or_eq_some with ⟨ha, hb⟩ | ⟨c, d, ha, hb, hcd⟩
  · rw [ha, hb]
    exact .nil
  · rw [ha, hb]
    exact (sim.chainBranches hcd).map fun _ _ hlink => HandleRel.ofNode _ hlink

end Listings

section Steps

/-- The first handle that declares a name is at the same place in related lists. -/
theorem firstDeclaring
    (name : String)
    {candidates others : List Handle}
    (hrel : List.Forall₂ (HandleRel R) candidates others) :
    HandleRel R (Handle.firstDeclaring name candidates) (Handle.firstDeclaring name others) := by
  have hfirst := hrel.find? fun _ _ hcd =>
    hcd.node.any_eq fun _ _ hab => sim.declares_eq hab name
  exact hfirst.getD HandleRel.empty

/-- Related handles are on a function of the same name together, and narrowed alike. -/
theorem asFunction
    (hrel : HandleRel R h k)
    (name : String) :
    Option.Rel (HandleRel R) (h.asFunction? name) (k.asFunction? name) := by
  refine hrel.node.bind fun a b hab => ?_
  rw [sim.shape_eq hab, sim.declaredName_eq hab]
  split
  · exact (sim.functionDeclarator hab name).map fun _ _ hcd =>
      ⟨hrel.node, hrel.context, .some hcd⟩
  · split
    · exact .some hrel
    · exact .none

/-- Every step carries related handles to related handles. -/
theorem apply
    (hrel : HandleRel R h k)
    (step : Step) :
    HandleRel R (step.apply h) (step.apply k) := by
  cases step with
  | variableNamed name =>
      exact sim.firstDeclaring name (sim.scopeWithShape hrel _)
  | functionNamed name withVariables =>
      have hfirst := (sim.functions hrel withVariables).findSome? fun _ _ hcd =>
        sim.asFunction hcd name
      exact hfirst.getD HandleRel.empty
  | typeNamed name =>
      exact sim.firstDeclaring name (sim.scopeWithShape hrel _)
  | interfaceNamed name =>
      exact sim.firstDeclaring name (sim.scopeWithShape hrel _)
  | classNamed name =>
      exact sim.firstDeclaring name (sim.scopeWithShape hrel _)
  | methodNamed name =>
      exact sim.firstDeclaring name (sim.membersOf hrel .method (by decide))
  | propertyNamed name =>
      exact sim.firstDeclaring name (sim.membersOf hrel .classProperty (by decide))
  | parameterAt index =>
      exact ((sim.handleParameters hrel).getElem? index).getD HandleRel.empty
  | conditionalAt index =>
      exact ((sim.scopeWithShape hrel _).getElem? index).getD HandleRel.empty
  | conditionAt index =>
      exact ((sim.conditions hrel).getElem? index).getD HandleRel.empty
  | branchAt index =>
      exact ((sim.branches hrel).getElem? index).getD HandleRel.empty
  | declaredType =>
      exact HandleRel.ofNode? _ (hrel.focus.bind fun _ _ hab => sim.declaredType hab)
  | resultType =>
      exact HandleRel.ofNode? _ (hrel.focus.bind fun _ _ hab => sim.resultType hab)
  | body =>
      exact HandleRel.ofNode? _ (hrel.focus.bind fun _ _ hab => sim.body hab)

/-- Every selection carries related handles to related handles. -/
theorem foldl_apply
    (hrel : HandleRel R h k)
    (steps : List Step) :
    HandleRel R (steps.foldl Step.apply h) (steps.foldl Step.apply k) := by
  induction steps generalizing h k with
  | nil =>
      exact hrel
  | cons step rest ih =>
      exact ih (sim.apply hrel step)

end Steps

section Expectations

theorem value
    (hrel : HandleRel R h k) :
    HandleRel R h.value k.value := by
  unfold Handle.value Handle.found?
  have hinitializer := hrel.focus.bind fun _ _ hab => sim.initializer hab
  rcases hinitializer.eq_none_or_eq_some with ⟨ha, hb⟩ | ⟨c, d, ha, hb, hcd⟩
  · rw [ha, hb]
    exact HandleRel.empty
  · rw [ha, hb]
    exact sim.found hcd

theorem isCallTo_eq
    (hrel : HandleRel R h k)
    (callee : String) :
    h.isCallTo callee = k.isCallTo callee := by
  refine (sim.value hrel).node.any_eq fun c d hcd => ?_
  rw [sim.kind_eq hcd, sim.childText_eq hcd "function" (by decide)]

theorem isInteger_eq
    (hrel : HandleRel R h k) :
    h.isInteger = k.isInteger :=
  (sim.value hrel).node.any_eq fun _ _ hcd => sim.isIntegerLiteral_eq hcd

/-- A text says the same as both of two related handles or as neither: it is read in the same
context, and its node is compared in the same way. -/
theorem agreesWithText_eq
    (hrel : HandleRel R h k)
    (parse : Parser)
    (text : String) :
    h.agreesWithText parse text = k.agreesWithText parse text := by
  have haligned : ∀ parsed, Handle.aligned h.node parsed = Handle.aligned k.node parsed := by
    intro parsed
    rcases hrel.node.eq_none_or_eq_some with ⟨ha, hb⟩ | ⟨a, b, ha, hb, hab⟩
    · rw [ha, hb]
    · rw [ha, hb]
      cases parsed with
      | none =>
          rfl
      | some p =>
          simp only [Handle.aligned, sim.kind_eq hab]
  rw [Handle.agreesWithText, Handle.agreesWithText, hrel.context, haligned]
  exact sim.agree_eq hrel.node _

theorem hasDeclaredType_eq
    (hrel : HandleRel R h k)
    (parse : Parser)
    (text : String) :
    h.hasDeclaredType parse text = k.hasDeclaredType parse text := by
  have htype : HandleRel R h.declaredType k.declaredType := sim.apply hrel .declaredType
  rw [Handle.hasDeclaredType, Handle.hasDeclaredType, htype.isEmpty_eq,
    sim.agreesWithText_eq htype parse text]

theorem hasResultType_eq
    (hrel : HandleRel R h k)
    (parse : Parser)
    (text : String) :
    h.hasResultType parse text = k.hasResultType parse text := by
  have htype : HandleRel R h.resultType k.resultType := sim.apply hrel .resultType
  rw [Handle.hasResultType, Handle.hasResultType, htype.isEmpty_eq,
    sim.agreesWithText_eq htype parse text]

/-- Related members have the type that is asked for together. -/
theorem memberHasType_eq
    {m n : Node}
    (hmn : R m n)
    (parse : Parser)
    (type : Option String) :
    Handle.memberHasType parse m type = Handle.memberHasType parse n type := by
  unfold Handle.memberHasType
  cases type with
  | none =>
      rfl
  | some text =>
      exact (sim.memberType hmn).any_eq fun _ _ hcd =>
        sim.agreesWithText_eq (HandleRel.ofNode _ hcd) parse text

theorem memberIsOptional_eq
    {m n : Node}
    (hmn : R m n)
    (optional : Option Bool) :
    Handle.memberIsOptional m optional = Handle.memberIsOptional n optional := by
  unfold Handle.memberIsOptional
  rw [sim.hasToken_eq hmn]

/-- Related declarations have a member as expected together. -/
theorem hasMember_eq
    (hrel : HandleRel R h k)
    (parse : Parser)
    (expected : ExpectedMember) :
    h.hasMember parse expected = k.hasMember parse expected := by
  have hmember := hrel.focus.bind fun _ _ hab => sim.typeMember hab expected.name
  refine hmember.any_eq fun m n hmn => ?_
  rw [sim.memberHasType_eq hmn, sim.memberIsOptional_eq hmn]

/-- Every expectation is met on both of two related handles or on neither. -/
theorem judge_passed_iff
    (hrel : HandleRel R h k)
    (parse : Parser)
    (expectation : Expectation) :
    expectation.judge parse h = .passed ↔ expectation.judge parse k = .passed := by
  cases expectation with
  | present =>
      rfl
  | absent =>
      simp [Expectation.judge]
  | agrees text =>
      simp [Expectation.judge, Outcome.require, sim.agreesWithText_eq hrel parse text]
  | declaredType text =>
      simp [Expectation.judge, Outcome.require, sim.hasDeclaredType_eq hrel parse text]
  | resultType text =>
      simp [Expectation.judge, Outcome.require, sim.hasResultType_eq hrel parse text]
  | members expected =>
      have hsearch :
          (expected.find? fun member => !h.hasMember parse member) =
            expected.find? fun member => !k.hasMember parse member := by
        simp only [sim.hasMember_eq hrel parse]
      simp only [Expectation.judge, hsearch]
  | parameterCount count =>
      simp [Expectation.judge, Outcome.require, (sim.handleParameters hrel).length_eq]
  | callTo callee =>
      simp [Expectation.judge, Outcome.require, sim.isCallTo_eq hrel callee]
  | integer =>
      simp [Expectation.judge, Outcome.require, sim.isInteger_eq hrel]

end Expectations

section Outcomes

variable (htext : ∀ {a b}, R a b → a.text = b.text)
include htext

omit sim in
theorem display_eq
    (hrel : HandleRel R h k) :
    h.display = k.display := by
  unfold Handle.display
  rcases hrel.node.eq_none_or_eq_some with ⟨ha, hb⟩ | ⟨a, b, ha, hb, hab⟩
  · rw [ha, hb]
  · rw [ha, hb, Option.map_some, Option.map_some, htext hab]

/-- An expectation has the same outcome on handles that show the same. -/
theorem judge_eq
    (hrel : HandleRel R h k)
    (parse : Parser)
    (expectation : Expectation) :
    expectation.judge parse h = expectation.judge parse k := by
  have htype : h.declaredType.display = k.declaredType.display :=
    display_eq htext (sim.apply hrel .declaredType)
  have hresult : h.resultType.display = k.resultType.display :=
    display_eq htext (sim.apply hrel .resultType)
  cases expectation with
  | present =>
      rfl
  | absent =>
      simp only [Expectation.judge, display_eq htext hrel]
  | agrees text =>
      simp only [Expectation.judge, display_eq htext hrel, sim.agreesWithText_eq hrel parse text]
  | declaredType text =>
      simp only [Expectation.judge, htype, sim.hasDeclaredType_eq hrel parse text]
  | resultType text =>
      simp only [Expectation.judge, hresult, sim.hasResultType_eq hrel parse text]
  | members expected =>
      simp only [Expectation.judge, sim.hasMember_eq hrel parse]
  | parameterCount count =>
      simp only [Expectation.judge, (sim.handleParameters hrel).length_eq]
  | callTo callee =>
      simp only [Expectation.judge, display_eq htext (sim.value hrel), sim.isCallTo_eq hrel callee]
  | integer =>
      simp only [Expectation.judge, display_eq htext (sim.value hrel), sim.isInteger_eq hrel]

/-- Steps from handles that show the same have the same outcome: they are lost at the same step, or
lead to handles that show the same. -/
theorem follow_eq
    (hrel : HandleRel R h k)
    (parse : Parser)
    (expectation : Expectation)
    (steps : List Step) :
    expectation.follow parse h steps = expectation.follow parse k steps := by
  induction steps generalizing h k with
  | nil =>
      exact sim.judge_eq htext hrel parse expectation
  | cons step rest ih =>
      have hnext := sim.apply hrel step
      rw [Expectation.follow, Expectation.follow, hnext.isEmpty_eq, ih hnext]

end Outcomes

/-- A check passes on two sources with related handles together. -/
theorem evaluate_passed_iff
    {parse : Parser}
    {source₁ source₂ : String}
    (hrel : HandleRel R (Handle.ofSource parse source₁) (Handle.ofSource parse source₂))
    (check : Check) :
    check.evaluate parse source₁ = .passed ↔ check.evaluate parse source₂ = .passed := by
  have hresolve :
      HandleRel R (resolve parse source₁ check.select) (resolve parse source₂ check.select) :=
    sim.foldl_apply hrel check.select
  cases hempty : (resolve parse source₁ check.select).isEmpty with
  | true =>
      have hempty' : (resolve parse source₂ check.select).isEmpty = true := by
        rw [← hresolve.isEmpty_eq, hempty]
      obtain ⟨failure₁, heval₁⟩ := check.evaluate_of_isEmpty_resolve parse source₁ hempty
      obtain ⟨failure₂, heval₂⟩ := check.evaluate_of_isEmpty_resolve parse source₂ hempty'
      rw [heval₁, heval₂]
      simp [Expectation.onNothing, Outcome.require]
  | false =>
      have hempty' : (resolve parse source₂ check.select).isEmpty = false := by
        rw [← hresolve.isEmpty_eq, hempty]
      rw [check.evaluate_of_found parse source₁ hempty,
        check.evaluate_of_found parse source₂ hempty']
      exact sim.judge_passed_iff hresolve parse check.expect

end Simulation
end SnippetRubric
