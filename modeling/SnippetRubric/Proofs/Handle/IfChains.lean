import SnippetRubric.Proofs.Fragment.Reading
import SnippetRubric.Proofs.Handle.Source
import SnippetRubric.Proofs.Simulation.Related

/-!
# Conditions and branches line up

The links of an if chain are found by following `else` branches: the link after a link is the `if`
statement in its `else` branch, and the chain ends where that branch is missing or is a statement of
another kind (`Tree.link?`, `Tree.plainElse?`).  An `if` statement inside a branch is no link.

The conditions and the branches of a chain are read from its links one by one, and a link without
the part that is asked for is left out.  What a link tests is the first named child of its
`condition` child that is not a comment (`Tree.testedCondition?_eq_some_iff`).  Where every link has
both parts nothing is left out, and the two listings run along the links in step.  The main
statement is `Handle.conditions_line_up_with_branches`.
-/

namespace SnippetRubric

/-- A list whose members all have an image keeps its order and its length under `filterMap`. -/
theorem forall₂_filterMap
    {α β : Type}
    {f : α → Option β} :
    ∀ {xs : List α}, (∀ x ∈ xs, (f x).isSome = true) →
      List.Forall₂ (fun x y => f x = some y) xs (xs.filterMap f)
  | [], _ => .nil
  | x :: xs, h => by
      obtain ⟨y, hy⟩ := Option.isSome_iff_exists.mp (h x (by simp))
      rw [List.filterMap_cons_some hy]
      exact .cons hy (forall₂_filterMap fun z hz => h z (List.mem_cons_of_mem x hz))

namespace Tree

/-- The link after a link: the `if` statement in its `else` branch. -/
def nextLink? (n : Node) : Option Node :=
  n.elseBranch?.filter fun s => s.shape == .conditional

/-- The statement of a plain `else`, one that is no `if` statement. -/
def plainElse? (n : Node) : Option Node :=
  n.elseBranch?.filter fun s => s.shape != .conditional

/-- The link at an index of the chain that starts with `n`. -/
def link? (n : Node) : Nat → Option Node
  | 0 => some n
  | i + 1 => n.nextLink?.bind fun next => next.link? i

/-- A link with a condition and a consequence, as the grammar has it. -/
structure IsWholeLink (n : Node) : Prop where
  condition : n.testedCondition?.isSome = true
  consequence : (n.child? "consequence").isSome = true

/-- Every link of the chain that starts with `n` is whole. -/
def LinksWhole (n : Node) : Prop :=
  ∀ i link, n.link? i = some link → link.IsWholeLink

/-- The links are whole, one link at a time. -/
theorem linksWhole_iff
    (n : Node) :
    n.LinksWhole ↔ n.IsWholeLink ∧ ∀ next, n.nextLink? = some next → next.LinksWhole := by
  constructor
  · intro h
    refine ⟨h 0 n rfl, fun next hnext i link hlink => h (i + 1) link ?_⟩
    rw [link?, hnext]
    exact hlink
  · rintro ⟨hfirst, hrest⟩ i link hlink
    cases i with
    | zero =>
        cases hlink
        exact hfirst
    | succ i =>
        obtain ⟨next, hnext, hlink⟩ := Option.bind_eq_some_iff.mp hlink
        exact hrest next hnext i link hlink

section Parts

variable {n c : Node}

/-- The tested expression is the first named child of the `condition` child that is not a
comment. -/
theorem testedCondition?_eq_some_iff :
    n.testedCondition? = some c ↔
      ∃ clause, IsFirst (·.field = some "condition") n.children clause ∧
        IsFirst (fun s => s.named = true ∧ s.kind ≠ "comment") clause.children c := by
  simp only [testedCondition?, Option.bind_eq_some_iff, child?_eq_some_iff,
    firstStatement?_eq_some_iff]

/-- The statement of an `else` branch is the first named child of the `alternative` child that is
not a comment. -/
theorem elseBranch?_eq_some_iff :
    n.elseBranch? = some c ↔
      ∃ clause, IsFirst (·.field = some "alternative") n.children clause ∧
        IsFirst (fun s => s.named = true ∧ s.kind ≠ "comment") clause.children c := by
  simp only [elseBranch?, Option.bind_eq_some_iff, child?_eq_some_iff, firstStatement?_eq_some_iff]

end Parts

section ElseBranch

variable {n next : Node}

theorem nextLink?_eq_some_iff :
    n.nextLink? = some next ↔ n.elseBranch? = some next ∧ next.shape = .conditional := by
  simp [nextLink?, Option.filter_eq_some_iff]

theorem nextLink?_of_none
    (h : n.elseBranch? = none) :
    n.nextLink? = none := by
  rw [nextLink?, h]
  rfl

theorem nextLink?_of_plain
    (h : n.elseBranch? = some next)
    (hshape : next.shape ≠ .conditional) :
    n.nextLink? = none := by
  rw [nextLink?, h, Option.filter_some_neg (by simpa using hshape)]

theorem plainElse?_of_plain
    (h : n.elseBranch? = some next)
    (hshape : next.shape ≠ .conditional) :
    n.plainElse? = some next := by
  rw [plainElse?, h, Option.filter_some_pos (by simpa using hshape)]

end ElseBranch

end Tree

namespace IfChain

/-- The links of a chain are those that are found by following `else` branches. -/
theorem getElem?_links
    (n : Node)
    (i : Nat) :
    (ofConditional n).links[i]? = n.link? i := by
  induction n using ofConditional.induct generalizing i with
  | case1 n hnone =>
      rw [ofConditional_eq, hnone]
      cases i with
      | zero =>
          rfl
      | succ i =>
          rw [Tree.link?, Tree.nextLink?_of_none hnone]
          rfl
  | case2 n next hnext hshape ih =>
      rw [ofConditional_eq, hnext]
      simp only [if_pos hshape]
      cases i with
      | zero =>
          rfl
      | succ i =>
          rw [Tree.link?, Tree.nextLink?_eq_some_iff.mpr ⟨hnext, hshape⟩]
          exact ih i
  | case3 n next hnext hshape =>
      rw [ofConditional_eq, hnext]
      simp only [if_neg hshape]
      cases i with
      | zero =>
          rfl
      | succ i =>
          rw [Tree.link?, Tree.nextLink?_of_plain hnext hshape]
          rfl

/-- The last `else` statement of a chain is the plain `else` of its last link. -/
theorem exists_last
    (n : Node) :
    ∃ last,
      (ofConditional n).links.getLast? = some last ∧
        (ofConditional n).otherwise = last.plainElse? := by
  induction n using ofConditional.induct with
  | case1 n hnone =>
      rw [ofConditional_eq, hnone]
      exact ⟨n, rfl, by simp [Tree.plainElse?, hnone]⟩
  | case2 n next hnext hshape ih =>
      obtain ⟨last, hlast, hotherwise⟩ := ih
      rw [ofConditional_eq, hnext]
      simp only [if_pos hshape]
      exact ⟨last, by simp [List.getLast?_cons, hlast], hotherwise⟩
  | case3 n next hnext hshape =>
      rw [ofConditional_eq, hnext]
      simp only [if_neg hshape]
      exact ⟨n, rfl, (Tree.plainElse?_of_plain hnext hshape).symm⟩

section Readings

/-- What is listed along a chain: a part of each link that has it, and something for the last
`else` statement. -/
def readings (chain : IfChain) (part : Node → Option Node) (atElse : Node → Handle) : List Handle :=
  (chain.links.filterMap part).map (Handle.ofNode .generic) ++ chain.otherwise.toList.map atElse

variable {chain : IfChain} {part : Node → Option Node} {atElse : Node → Handle}

/-- Where every link has the part, the listing has one entry for each of them. -/
theorem length_filterMap_links
    (hpart : ∀ link ∈ chain.links, (part link).isSome = true) :
    ((chain.links.filterMap part).map (Handle.ofNode .generic)).length = chain.links.length := by
  rw [List.length_map, (forall₂_filterMap hpart).length_eq]

theorem length_readings
    (hpart : ∀ link ∈ chain.links, (part link).isSome = true) :
    (chain.readings part atElse).length = chain.links.length + chain.otherwise.toList.length := by
  rw [readings, List.length_append, length_filterMap_links hpart, List.length_map]

/-- The entry at the index of a link is read from that link. -/
theorem getElem?_readings_of_link
    (hpart : ∀ link ∈ chain.links, (part link).isSome = true)
    {i : Nat}
    {link : Node}
    (hlink : chain.links[i]? = some link) :
    ∃ c, part link = some c ∧
      (chain.readings part atElse)[i]? = some (Handle.ofNode .generic c) := by
  have hread := (forall₂_filterMap hpart).getElem? i
  rw [hlink] at hread
  rcases hread.eq_none_or_eq_some with ⟨hnone, _⟩ | ⟨x, c, hx, hc, hpartx⟩
  · cases hnone
  · obtain rfl : link = x := Option.some.inj hx
    refine ⟨c, hpartx, ?_⟩
    have hi : i < chain.links.length := (List.getElem?_eq_some_iff.mp hlink).1
    rw [readings, List.getElem?_append_left (by rwa [length_filterMap_links hpart]),
      List.getElem?_map, hc, Option.map_some]

/-- Behind the links the listing has what stands for the last `else` statement. -/
theorem getElem?_readings_of_le
    (hpart : ∀ link ∈ chain.links, (part link).isSome = true)
    {i : Nat}
    (hi : chain.links.length ≤ i) :
    (chain.readings part atElse)[i]? =
      (chain.otherwise.toList.map atElse)[i - chain.links.length]? := by
  have hlength := length_filterMap_links hpart
  rw [readings, List.getElem?_append_right (by omega), hlength]

/-- A listing along a chain starts with what is read from the first link and goes on with the
listing along the rest. -/
theorem readings_of_nextLink?
    {n next c : Node}
    (hnext : n.nextLink? = some next)
    (hc : part n = some c) :
    (ofConditional n).readings part atElse =
      Handle.ofNode .generic c :: (ofConditional next).readings part atElse := by
  obtain ⟨helse, hshape⟩ := Tree.nextLink?_eq_some_iff.mp hnext
  rw [ofConditional_eq, helse]
  simp only [if_pos hshape]
  rw [readings, List.filterMap_cons_some hc]
  rfl

end Readings
end IfChain

namespace Handle

variable {h : Handle} {n : Node}

theorem conditions_eq_readings
    (hnode : h.node = some n)
    (hif : n.shape = .conditional) :
    h.conditions = (IfChain.ofConditional n).readings Tree.testedCondition? fun _ => empty := by
  rw [conditions, hnode, Option.bind_some, IfChain.ofNode?, if_pos hif]
  rfl

theorem branches_eq_readings
    (hnode : h.node = some n)
    (hif : n.shape = .conditional) :
    h.branches =
      (IfChain.ofConditional n).readings (·.child? "consequence") (ofNode .generic) := by
  rw [branches, hnode, Option.bind_some, IfChain.ofNode?, if_pos hif]
  simp only [IfChain.branches, List.map_append]
  rfl

/-- The listings of a handle on the chain that starts with `n` run along its links in step. -/
structure LinesUp (h : Handle) (n : Node) (count : Nat) (last : Node) : Prop where
  links : ∀ i, (n.link? i).isSome = true ↔ i < count
  ends : n.link? (count - 1) = some last
  length_eq : h.conditions.length = h.branches.length
  length_branches :
    h.branches.length = if last.plainElse?.isSome then count + 1 else count
  ofLink : ∀ i link, n.link? i = some link →
    ∃ c b,
      link.testedCondition? = some c ∧
        link.child? "consequence" = some b ∧
        h.conditions[i]? = some (ofNode .generic c) ∧
        h.branches[i]? = some (ofNode .generic b)
  ofElse : ∀ s, last.plainElse? = some s →
    h.conditions[count]? = some empty ∧ h.branches[count]? = some (ofNode .generic s)

theorem exists_linesUp
    (hnode : h.node = some n)
    (hif : n.shape = .conditional)
    (hwhole : n.LinksWhole) :
    ∃ last, h.LinesUp n (IfChain.ofConditional n).links.length last := by
  have hlink := IfChain.getElem?_links n
  have hwhole' : ∀ link ∈ (IfChain.ofConditional n).links, link.IsWholeLink := by
    intro link hmem
    obtain ⟨i, hi⟩ := List.mem_iff_getElem?.mp hmem
    exact hwhole i link (hlink i ▸ hi)
  have hcondition := fun link hmem => (hwhole' link hmem).condition
  have hconsequence := fun link hmem => (hwhole' link hmem).consequence
  obtain ⟨last, hlast, hotherwise⟩ := IfChain.exists_last n
  refine ⟨last, ?links, ?ends, ?length_eq, ?length_branches, ?ofLink, ?ofElse⟩
  case links =>
    intro i
    rw [← hlink i]
    simp
  case ends =>
    rw [← hlink, ← List.getLast?_eq_getElem?, hlast]
  case length_eq =>
    rw [conditions_eq_readings hnode hif, branches_eq_readings hnode hif,
      IfChain.length_readings hcondition, IfChain.length_readings hconsequence]
  case length_branches =>
    rw [branches_eq_readings hnode hif, IfChain.length_readings hconsequence, hotherwise]
    cases last.plainElse? with
    | none =>
        rfl
    | some s =>
        rfl
  case ofLink =>
    intro i link hi
    rw [← hlink i] at hi
    obtain ⟨c, hc, hconditions⟩ := IfChain.getElem?_readings_of_link hcondition hi
    obtain ⟨b, hb, hbranches⟩ := IfChain.getElem?_readings_of_link hconsequence hi
    rw [conditions_eq_readings hnode hif, branches_eq_readings hnode hif]
    exact ⟨c, b, hc, hb, hconditions, hbranches⟩
  case ofElse =>
    intro s hs
    rw [conditions_eq_readings hnode hif, branches_eq_readings hnode hif,
      IfChain.getElem?_readings_of_le hcondition (Nat.le_refl _),
      IfChain.getElem?_readings_of_le hconsequence (Nat.le_refl _), hotherwise, hs]
    simp

namespace LinesUp

variable {count : Nat} {last : Node}

/-- A step to a condition finds one at the index of a link, and nothing for the last `else`. -/
theorem isEmpty_conditionAt_iff
    (hup : h.LinesUp n count last)
    (i : Nat) :
    ((Step.conditionAt i).apply h).isEmpty = false ↔ i < count := by
  have hlengths := hup.length_eq.trans hup.length_branches
  rw [← hup.links i, Step.apply]
  cases hlink : n.link? i with
  | some link =>
      obtain ⟨c, _, _, _, hc, _⟩ := hup.ofLink i link hlink
      simp [hc, isEmpty, ofNode]
  | none =>
      have hi : count ≤ i := by
        simpa [hlink] using hup.links i
      have hnothing : h.conditions[i]?.getD empty = empty := by
        cases helse : last.plainElse? with
        | none =>
            simp only [helse, Option.isSome_none, Bool.false_eq_true, if_false] at hlengths
            rw [List.getElem?_eq_none (by omega), Option.getD_none]
        | some s =>
            simp only [helse, Option.isSome_some, if_true] at hlengths
            rcases Nat.eq_or_lt_of_le hi with rfl | hlt
            · rw [(hup.ofElse s helse).1, Option.getD_some]
            · rw [List.getElem?_eq_none (by omega), Option.getD_none]
      simp [hnothing]

/-- A step to a branch finds one at every index of the listing. -/
theorem isEmpty_branchAt_iff
    (hup : h.LinesUp n count last)
    (i : Nat) :
    ((Step.branchAt i).apply h).isEmpty = false ↔ i < h.branches.length := by
  rw [Step.apply]
  constructor
  · intro hfound
    by_contra hi
    rw [List.getElem?_eq_none (by omega)] at hfound
    cases hfound
  · intro hi
    have hlength := hup.length_branches
    cases hlink : n.link? i with
    | some link =>
        obtain ⟨_, b, _, _, _, hb⟩ := hup.ofLink i link hlink
        simp [hb, isEmpty, ofNode]
    | none =>
        have hcount : count ≤ i := by
          simpa [hlink] using hup.links i
        cases helse : last.plainElse? with
        | none =>
            simp only [helse, Option.isSome_none, Bool.false_eq_true, if_false] at hlength
            omega
        | some s =>
            simp only [helse, Option.isSome_some, if_true] at hlength
            obtain rfl : i = count := by omega
            simp [(hup.ofElse s helse).2, isEmpty, ofNode]

end LinesUp

/-- On an if chain whose links are whole the conditions and the branches line up: link by link, with
an empty handle beside the statement of the last `else`.  Where the `else` branch is an `if`
statement again, both listings go on with those of that statement.  So a step to a condition finds
something at the index of a link only, and a step to a branch at every index of the listing. -/
theorem conditions_line_up_with_branches
    (h : Handle)
    (n : Node)
    (hnode : h.node = some n)
    (hif : n.shape = .conditional)
    (hwhole : n.LinksWhole) :
    (∃ count last,
      h.LinesUp n count last ∧
        (∀ i, ((Step.conditionAt i).apply h).isEmpty = false ↔ i < count) ∧
        ∀ i, ((Step.branchAt i).apply h).isEmpty = false ↔ i < h.branches.length) ∧
    ∀ inner, n.elseBranch? = some inner → inner.shape = .conditional →
      ∃ c b,
        n.testedCondition? = some c ∧
          n.child? "consequence" = some b ∧
          ∀ k : Handle, k.node = some inner →
            h.conditions = ofNode .generic c :: k.conditions ∧
              h.branches = ofNode .generic b :: k.branches := by
  constructor
  · obtain ⟨last, hup⟩ := exists_linesUp hnode hif hwhole
    exact ⟨_, last, hup, hup.isEmpty_conditionAt_iff, hup.isEmpty_branchAt_iff⟩
  · intro inner helse hinner
    have hnext := Tree.nextLink?_eq_some_iff.mpr ⟨helse, hinner⟩
    obtain ⟨hcondition, hconsequence⟩ := ((Tree.linksWhole_iff n).mp hwhole).1
    obtain ⟨c, hc⟩ := Option.isSome_iff_exists.mp hcondition
    obtain ⟨b, hb⟩ := Option.isSome_iff_exists.mp hconsequence
    refine ⟨c, b, hc, hb, fun k hk => ⟨?_, ?_⟩⟩
    · rw [conditions_eq_readings hnode hif, conditions_eq_readings hk hinner]
      exact IfChain.readings_of_nextLink? hnext hc
    · rw [branches_eq_readings hnode hif, branches_eq_readings hk hinner]
      exact IfChain.readings_of_nextLink? hnext hb

section Samples

/-- A statement that consists of a name and a semicolon, as a parser sees it from `start` on. -/
def namedStatementSample (field : Option String) (start : Nat) : ParseTree :=
  .node ⟨"expression_statement", field, true, false, ⟨start, start + 2⟩⟩
    [.node ⟨"identifier", none, true, false, ⟨start, start + 1⟩⟩ [],
     .node ⟨";", none, false, false, ⟨start + 1, start + 2⟩⟩ []]

/-- A statement `if (…) …;` as a parser sees it, with what stands in its `else` branch. -/
def conditionalSample (start stop : Nat) (alternative : List ParseTree) : ParseTree :=
  .node ⟨"if_statement", none, true, false, ⟨start, stop⟩⟩
    [.node ⟨"if", none, false, false, ⟨start, start + 2⟩⟩ [],
     .node ⟨"parenthesized_expression", some "condition", true, false, ⟨start + 3, start + 6⟩⟩
      [.node ⟨"(", none, false, false, ⟨start + 3, start + 4⟩⟩ [],
       .node ⟨"identifier", none, true, false, ⟨start + 4, start + 5⟩⟩ [],
       .node ⟨")", none, false, false, ⟨start + 5, start + 6⟩⟩ []],
     namedStatementSample (some "consequence") (start + 7),
     .node ⟨"else_clause", some "alternative", true, false, ⟨start + 10, stop⟩⟩
      (.node ⟨"else", none, false, false, ⟨start + 10, start + 14⟩⟩ [] :: alternative)]

/-- The text of a chain of two links and a last `else`. -/
def chainText : String := "if (a) b; else /* c */ if (d) e; else f;"

/-- The chain as a parser sees it, with a comment in its first `else` branch. -/
def chainSample : ParseTree :=
  conditionalSample 0 40
    [.node ⟨"comment", none, true, false, ⟨15, 22⟩⟩ [],
     conditionalSample 23 40 [namedStatementSample none 38]]

/-- The handle on the chain. -/
def chainHandle : Handle :=
  ofSource (fun text => .node ⟨"program", none, true, false, ⟨0, text.utf8ByteSize⟩⟩ [chainSample])
    chainText

theorem linksWhole_chainSample : (chainSample.excerpted chainText).LinksWhole := by
  have hinner :
      (chainSample.excerpted chainText).nextLink? =
        some ((conditionalSample 23 40 [namedStatementSample none 38]).excerpted chainText) := by
    rfl
  rw [Tree.linksWhole_iff]
  refine ⟨⟨by decide, by decide⟩, fun next hnext => ?_⟩
  obtain rfl := Option.some.inj (hinner.symm.trans hnext)
  rw [Tree.linksWhole_iff]
  exact ⟨⟨by decide, by decide⟩, fun next hnext => nomatch hnext⟩

/-- The chain has two links and an `else`: three conditions, of which the last is empty, and three
branches. -/
theorem conditions_line_up_of_chainSample :
    chainHandle.node = some (chainSample.excerpted chainText) ∧
      (chainSample.excerpted chainText).shape = .conditional ∧
      (chainSample.excerpted chainText).LinksWhole ∧
      chainHandle.conditions.length = 3 ∧
      chainHandle.branches.length = 3 ∧
      ((Step.conditionAt 1).apply chainHandle).isEmpty = false ∧
      ((Step.conditionAt 2).apply chainHandle).isEmpty = true ∧
      ((Step.branchAt 2).apply chainHandle).isEmpty = false := by
  obtain ⟨⟨count, last, hup, hconditions, hbranches⟩, _⟩ :=
    conditions_line_up_with_branches chainHandle (chainSample.excerpted chainText) rfl rfl
      linksWhole_chainSample
  obtain rfl : count = 2 := by
    have hsecond := (hup.links 1).mp (by decide)
    have hthird := mt (hup.links 2).mpr (by decide)
    omega
  have hlast : last.plainElse?.isSome = true := by
    obtain rfl := Option.some.inj hup.ends
    decide
  have hlength : chainHandle.branches.length = 3 := by
    rw [hup.length_branches, if_pos hlast]
  refine ⟨rfl, rfl, linksWhole_chainSample, hup.length_eq.trans hlength, hlength,
    (hconditions 1).mpr (by omega), ?_, (hbranches 2).mpr (by omega)⟩
  simpa using mt (hconditions 2).mp (by omega)

end Samples

end Handle
end SnippetRubric
