import SnippetRubric.Proofs.Handle.Grounded
import SnippetRubric.Proofs.Tree.Copying

/-!
# The handle of a source, and when lookups by name are empty

The handle of a source that is not blank is on the only statement of the program or on the program
itself, unless the parse tree nests too deeply: then there is nothing to ask
(`Handle.node_ofSource`, `Handle.isEmpty_ofSource_of_tooDeep`).

A lookup by name is empty when no entry of the scope answers to the name
(`Handle.isEmpty_firstDeclaring_scopeWith_iff`, `Handle.isEmpty_findFunction_iff`).
-/

namespace SnippetRubric
namespace Handle

section Source

variable {parse : Parser} {source : String}

/-- The handle of a source is read from its copy. -/
theorem node_ofSource_of_copy
    {root : Node}
    (hblank : Text.isBlank source = false)
    (hcopy : (parse source).copy source = .ok root) :
    (ofSource parse source).node = some (root.singleStatement?.getD root) := by
  simp [ofSource, inContext, ofNode?, FragmentContext.read, FragmentContext.embed,
    FragmentContext.extract, hblank, hcopy]

/-- A source that does not nest too deeply has a handle on its only statement, or else on the whole
program. -/
theorem node_ofSource
    (hblank : Text.isBlank source = false)
    (hheight : (parse source).height ≤ maxDepth) :
    (ofSource parse source).node =
      some ((((parse source).excerpted source).singleStatement?).getD
        ((parse source).excerpted source)) := by
  apply node_ofSource_of_copy hblank
  rw [ParseTree.copy_eq, if_pos hheight]

/-- A source that nests too deeply has an empty handle. -/
theorem isEmpty_ofSource_of_tooDeep
    (hblank : Text.isBlank source = false)
    (hheight : maxDepth < (parse source).height) :
    (ofSource parse source).isEmpty = true := by
  have hcopy : (parse source).copy source = .error .mk := by
    rw [ParseTree.copy_eq, if_neg (by omega)]
  simp [ofSource, inContext, ofNode?, isEmpty, FragmentContext.read, FragmentContext.embed,
    hblank, hcopy]

end Source

section Lookups

variable {h : Handle} {n : Node}

/-- A lookup among candidates is empty when none of them declares the name. -/
theorem isEmpty_firstDeclaring_iff
    (name : String)
    (candidates : List Handle) :
    (firstDeclaring name candidates).isEmpty = true ↔
      ∀ c ∈ candidates, c.node.any (·.declares name) = false := by
  unfold firstDeclaring
  cases hfind : candidates.find? fun candidate => candidate.node.any (·.declares name) with
  | none =>
      simpa using hfind
  | some c =>
      have hmem := List.mem_of_find?_eq_some hfind
      have hdeclares := List.find?_some hfind
      have hnode : c.isEmpty = false := by
        cases hc : c.node with
        | none =>
            simp [hc] at hdeclares
        | some d =>
            simp [isEmpty, hc]
      simp only [Option.getD_some, hnode, Bool.false_eq_true, false_iff]
      intro hall
      rw [hall c hmem] at hdeclares
      cases hdeclares

/-- A lookup in a scope is empty when no entry that it lists declares the name. -/
theorem isEmpty_firstDeclaring_scopeWith_iff
    (hnode : h.node = some n)
    (name : String)
    (keep : Node → Bool) :
    (firstDeclaring name (h.scopeWith keep)).isEmpty = true ↔
      ∀ d ∈ n.scope, keep d = true → d.declares name = false := by
  rw [isEmpty_firstDeclaring_iff]
  simp only [scopeWith, hnode, List.forall_mem_map, List.mem_filter, and_imp, node_found,
    Option.any_some]

/-- A lookup of a function is empty when no entry that it lists is a function of the name. -/
theorem isEmpty_findFunction_iff
    (hnode : h.node = some n)
    (name : String)
    (withVariables : Bool) :
    (h.findFunction name withVariables).isEmpty = true ↔
      ∀ d ∈ n.scope, isFunctionEntry withVariables d = true →
        (found d).asFunction? name = none := by
  have hlisted :
      h.functions withVariables = (n.scope.filter (isFunctionEntry withVariables)).map found := by
    simp [functions, scopeWith, hnode]
  unfold findFunction
  cases hfind : (h.functions withVariables).findSome? (·.asFunction? name) with
  | none =>
      rw [hlisted, List.findSome?_eq_none_iff, List.forall_mem_map] at hfind
      simpa only [List.mem_filter, and_imp, Option.getD_none, isEmpty_empty, true_iff] using hfind
  | some k =>
      obtain ⟨x, hx, hxk⟩ := List.exists_of_findSome?_eq_some hfind
      rw [hlisted] at hx
      obtain ⟨d, hd, rfl⟩ := List.mem_map.mp hx
      obtain ⟨hscope, hentry⟩ := List.mem_filter.mp hd
      have hfull : k.isEmpty = false := by
        obtain ⟨m, hm, hk⟩ := Option.bind_eq_some_iff.mp hxk
        split at hk
        · obtain ⟨declarator, _, rfl⟩ := Option.map_eq_some_iff.mp hk
          rfl
        · split at hk
          · cases hk
            rfl
          · cases hk
      simp only [Option.getD_some, hfull, Bool.false_eq_true, false_iff]
      intro hall
      rw [hall d hscope hentry] at hxk
      cases hxk

end Lookups
end Handle
end SnippetRubric
