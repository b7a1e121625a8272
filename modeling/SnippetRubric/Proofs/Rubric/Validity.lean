import Mathlib.Data.List.Dedup
import Mathlib.Data.List.Induction
import SnippetRubric.Proofs.Files.Joining
import SnippetRubric.Rubric.Validation

/-!
# What validation reports

A check has to keep a list of *rules*: its identifier is filled in and not used before, its file is
filled in and stays inside the root, the names of its steps and the parts of its expectation are
filled in.  `Rule.Broken` says when a rule is broken, given the checks before.

Validation walks through the checks and remembers the identifiers that it has seen.  What it reports
is read off the rules: one problem for every rule that a check breaks, check by check and in the
order of the rules (`Check.issuesAll_eq_flatMap`).  Nothing is reported of the rubrics that are
valid (`Rubric.issues_eq_nil_iff`), and every repeated identifier is reported once
(`Check.countP_isDuplicate_issuesAll`).

The main statement is `Rubric.issues_reports_brokenRules`.
-/

namespace SnippetRubric

namespace Issue

/-- The problem of an identifier that was used before. -/
def isDuplicate : Issue → Bool
  | duplicateId _ => true
  | _ => false

/-- The problems of an identifier. -/
def isAboutId : Issue → Bool
  | missingId | duplicateId _ => true
  | _ => false

/-- The problems of a file. -/
def isAboutFile : Issue → Bool
  | missingField _ field => field == "file"
  | fileOutsideRoot _ _ => true
  | _ => false

end Issue

namespace Expectation

/-- The text that an expectation compares with. -/
@[simp] def text? : Expectation → Option String
  | agrees text | declaredType text | resultType text => some text
  | _ => none

/-- The members that an expectation lists. -/
@[simp] def members? : Expectation → Option (List ExpectedMember)
  | members expected => some expected
  | _ => none

/-- The callee that an expectation names. -/
@[simp] def callee? : Expectation → Option String
  | callTo callee => some callee
  | _ => none

/-- All parts of an expectation are filled in. -/
def Filled : Expectation → Prop
  | agrees text | declaredType text | resultType text => Text.isBlank text = false
  | members expected => expected ≠ [] ∧ ∀ member ∈ expected, Text.isBlank member.name = false
  | callTo callee => Text.isBlank callee = false
  | present | absent | parameterCount _ | integer => True

end Expectation

/-- What is asked of a check, in the order in which it is judged. -/
inductive Rule where
  | idFilled
  | idFresh
  | fileFilled
  | fileInside
  | nameFilled (step : Step)
  | textFilled
  | membersListed
  | membersNamed
  | calleeFilled
deriving DecidableEq, Repr

namespace Rule

/-- A check breaks a rule, given the checks before it.  An identifier or a file that is not filled
in breaks no second rule. -/
def Broken (earlier : List Check) (check : Check) : Rule → Prop
  | idFilled => Text.isBlank check.id = true
  | idFresh => Text.isBlank check.id = false ∧ ∃ other ∈ earlier, other.id = check.id
  | fileFilled => Text.isBlank check.file = true
  | fileInside =>
      Text.isBlank check.file = false ∧
        ¬ (Path.isAbsolute check.file = false ∧ .parent ∉ Path.components check.file)
  | nameFilled step => ∃ name ∈ step.name?, Text.isBlank name = true
  | textFilled => ∃ text ∈ check.expect.text?, Text.isBlank text = true
  | membersListed => check.expect.members? = some []
  | membersNamed =>
      ∃ members ∈ check.expect.members?, ∃ member ∈ members, Text.isBlank member.name = true
  | calleeFilled => ∃ callee ∈ check.expect.callee?, Text.isBlank callee = true

instance (earlier : List Check) (check : Check) : DecidablePred (Broken earlier check)
  | idFilled => inferInstanceAs (Decidable (_ = true))
  | idFresh => inferInstanceAs (Decidable (_ ∧ ∃ other ∈ earlier, other.id = check.id))
  | fileFilled => inferInstanceAs (Decidable (_ = true))
  | fileInside => inferInstanceAs (Decidable (_ ∧ ¬ (_ ∧ _ ∉ Path.components check.file)))
  | nameFilled step => inferInstanceAs (Decidable (∃ name ∈ step.name?, _ = true))
  | textFilled => inferInstanceAs (Decidable (∃ text ∈ check.expect.text?, _ = true))
  | membersListed => inferInstanceAs (Decidable (check.expect.members? = some []))
  | membersNamed =>
      inferInstanceAs (Decidable (∃ members ∈ check.expect.members?, ∃ member ∈ members, _ = true))
  | calleeFilled => inferInstanceAs (Decidable (∃ callee ∈ check.expect.callee?, _ = true))

/-- The problem that is reported of a check that breaks a rule. -/
def issue (check : Check) : Rule → Issue
  | idFilled => .missingId
  | idFresh => .duplicateId check.id
  | fileFilled => .missingField check.id "file"
  | fileInside => .fileOutsideRoot check.id check.file
  | nameFilled _ => .missingField check.id "select.name"
  | textFilled => .missingField check.id "expect.text"
  | membersListed => .missingField check.id "expect.props"
  | membersNamed => .missingField check.id "expect.props.name"
  | calleeFilled => .missingField check.id "expect.callee"

/-- The names of steps apart, the problem tells the rule. -/
theorem eq_of_issue_eq
    {check : Check}
    {rule other : Rule}
    (hrule : ∀ step, rule ≠ .nameFilled step)
    (h : other.issue check = rule.issue check) :
    other = rule := by
  cases rule <;> cases other <;> simp_all [issue]

end Rule

namespace Check

section Rules

variable (earlier : List Check) (check : Check)

/-- The rules for a check: its identifier, its file, its steps, its expectation. -/
def rules : List Rule :=
  [.idFilled, .idFresh] ++ [.fileFilled, .fileInside] ++ check.select.map .nameFilled ++
    [.textFilled, .membersListed, .membersNamed, .calleeFilled]

/-- The rules that a check breaks, given the checks before it. -/
def brokenRules : List Rule :=
  check.rules.filter fun rule => rule.Broken earlier check

/-- What there is to report of a check, given the checks before it. -/
def violations : List Issue :=
  (check.brokenRules earlier).map (Rule.issue check)

end Rules

section Violations

variable (earlier : List Check) {ids : List String} (check : Check)

theorem idIssues_eq
    (hids : ∀ id, id ∈ ids ↔ ∃ other ∈ earlier, other.id = id) :
    check.idIssues ids =
      (([.idFilled, .idFresh] : List Rule).filter fun rule => rule.Broken earlier check).map
        (Rule.issue check) := by
  cases hblank : Text.isBlank check.id with
  | true =>
      simp [idIssues, Rule.Broken, Rule.issue, hblank]
  | false =>
      by_cases hmem : check.id ∈ ids
      · have hother := (hids check.id).mp hmem
        simp [idIssues, Rule.Broken, Rule.issue, hblank, hmem, hother]
      · have hother := (not_congr (hids check.id)).mp hmem
        simp [idIssues, Rule.Broken, hblank, hmem, hother]

theorem fileIssues_eq :
    check.fileIssues =
      (([.fileFilled, .fileInside] : List Rule).filter fun rule => rule.Broken earlier check).map
        (Rule.issue check) := by
  cases hblank : Text.isBlank check.file with
  | true =>
      simp [fileIssues, Rule.Broken, Rule.issue, hblank]
  | false =>
      by_cases hinside : Path.staysInside check.file = true
      · have hpath := Path.staysInside_iff.mp hinside
        simp [fileIssues, Rule.Broken, hblank, hinside, hpath]
      · have hpath := (not_congr Path.staysInside_iff).mp hinside
        simp [fileIssues, Rule.Broken, Rule.issue, hblank, hinside, hpath]

theorem isNameless_eq
    (step : Step) :
    isNameless step = decide ((Rule.nameFilled step).Broken earlier check) := by
  cases hname : step.name? with
  | none =>
      simp [isNameless, Rule.Broken, hname]
  | some name =>
      simp [isNameless, Rule.Broken, hname]

theorem stepIssues_eq :
    check.stepIssues =
      ((check.select.map Rule.nameFilled).filter fun rule => rule.Broken earlier check).map
        (Rule.issue check) := by
  rw [stepIssues, List.filter_congr fun step _ => isNameless_eq earlier check step,
    List.filter_map, List.map_map]
  rfl

theorem expectIssues_eq :
    check.expectIssues =
      (([.textFilled, .membersListed, .membersNamed, .calleeFilled] : List Rule).filter
        fun rule => rule.Broken earlier check).map (Rule.issue check) := by
  unfold expectIssues
  cases hexpect : check.expect with
  | agrees text | declaredType text | resultType text =>
      cases hblank : Text.isBlank text <;>
        simp [Expectation.missingFields, Rule.Broken, Rule.issue, hexpect, hblank]
  | members expected =>
      -- The two rules about members do not mask each other: the list and its names are judged apart.
      have hnamed :
          (expected.any fun member => Text.isBlank member.name) =
            decide (∃ member ∈ expected, Text.isBlank member.name = true) := by
        simp [List.any_eq]
      by_cases hempty : expected = []
      · subst hempty
        simp [Expectation.missingFields, Rule.Broken, Rule.issue, hexpect]
      · by_cases hblank : ∃ member ∈ expected, Text.isBlank member.name = true
        · simp [Expectation.missingFields, Rule.Broken, Rule.issue, hexpect, hempty, hnamed, hblank]
        · simp [Expectation.missingFields, Rule.Broken, hexpect, hempty, hnamed, hblank]
  | callTo callee =>
      cases hblank : Text.isBlank callee <;>
        simp [Expectation.missingFields, Rule.Broken, Rule.issue, hexpect, hblank]
  | present | absent | parameterCount _ | integer =>
      simp [Expectation.missingFields, Rule.Broken, hexpect]

theorem issues_eq_violations
    (hids : ∀ id, id ∈ ids ↔ ∃ other ∈ earlier, other.id = id) :
    check.issues ids = check.violations earlier := by
  rw [issues, idIssues_eq earlier check hids, fileIssues_eq earlier check,
    stepIssues_eq earlier check, expectIssues_eq earlier check, violations, brokenRules, rules]
  simp only [List.filter_append, List.map_append]

end Violations

section Walk

theorem issuesAll_append
    (ids : List String)
    (checks more : List Check) :
    issuesAll ids (checks ++ more) =
      issuesAll ids checks ++ issuesAll ((checks.map Check.id).reverse ++ ids) more := by
  induction checks generalizing ids with
  | nil =>
      rfl
  | cons check rest ih =>
      simp [issuesAll, ih]

/-- The last check of a list is judged with all identifiers before it in mind. -/
theorem issuesAll_concat
    (checks : List Check)
    (check : Check) :
    issuesAll [] (checks ++ [check]) = issuesAll [] checks ++ check.violations checks := by
  have hids :
      ∀ id, id ∈ (checks.map Check.id).reverse ++ [] ↔ ∃ other ∈ checks, other.id = id := by
    simp
  rw [issuesAll_append, issuesAll, issuesAll, List.append_nil,
    issues_eq_violations checks check hids]

theorem issuesAll_eq_flatMap
    (checks : List Check) :
    issuesAll [] checks =
      checks.zipIdx.flatMap fun entry => entry.1.violations (checks.take entry.2) := by
  induction checks using List.reverseRecOn with
  | nil =>
      rfl
  | append_singleton checks check ih =>
      -- What stands before a check is not changed by a check at the end.
      have hbefore :
          (checks.zipIdx.flatMap fun entry =>
              entry.1.violations ((checks ++ [check]).take entry.2)) =
            checks.zipIdx.flatMap fun entry => entry.1.violations (checks.take entry.2) := by
        refine List.flatMap_congr fun entry hentry => ?_
        have hlt : entry.2 < checks.length := List.snd_lt_of_mem_zipIdx hentry
        rw [List.take_append_of_le_length (by omega)]
      rw [issuesAll_concat, ih, List.zipIdx_append, List.flatMap_append, hbefore]
      simp

end Walk

section Validity

/-- A check whose parts are all filled in, and whose file stays inside the root. -/
structure Complete (check : Check) : Prop where
  id : Text.isBlank check.id = false
  file : Text.isBlank check.file = false
  inside : Path.isAbsolute check.file = false ∧ .parent ∉ Path.components check.file
  names : ∀ step ∈ check.select, ∀ name, step.name? = some name → Text.isBlank name = false
  expect : check.expect.Filled

variable (earlier : List Check) (check : Check)

theorem filled_iff :
    check.expect.Filled ↔
      ∀ rule ∈ [Rule.textFilled, .membersListed, .membersNamed, .calleeFilled],
        ¬ rule.Broken earlier check := by
  unfold Expectation.Filled
  cases hexpect : check.expect <;> simp [Rule.Broken, hexpect]

/-- No rule is broken by the complete checks with an identifier of their own. -/
theorem forall_not_broken_iff :
    (∀ rule ∈ check.rules, ¬ rule.Broken earlier check) ↔
      check.Complete ∧ check.id ∉ earlier.map Check.id := by
  rw [rules, List.forall_mem_append, ← filled_iff]
  simp only [List.forall_mem_append, List.forall_mem_map, List.forall_mem_cons, List.not_mem_nil,
    false_imp_iff, implies_true, and_true, Rule.Broken]
  constructor
  · rintro ⟨⟨⟨⟨hid, hfresh⟩, hfile, hinside⟩, hnames⟩, hexpect⟩
    have hid : Text.isBlank check.id = false := by simpa using hid
    have hfile : Text.isBlank check.file = false := by simpa using hfile
    refine ⟨⟨hid, hfile, ?_, ?_, hexpect⟩, ?_⟩
    · exact not_not.mp fun hleaves => hinside ⟨hfile, hleaves⟩
    · intro step hstep name hname
      simpa [hname] using hnames step hstep
    · simpa [hid] using hfresh
  · rintro ⟨⟨hid, hfile, hinside, hnames, hexpect⟩, hfresh⟩
    refine ⟨⟨⟨⟨by simp [hid], ?_⟩, by simp [hfile], ?_⟩, ?_⟩, hexpect⟩
    · simpa [hid] using hfresh
    · exact fun hbroken => hbroken.2 hinside
    · rintro step hstep ⟨name, hname, hblank⟩
      simp [hnames step hstep name hname] at hblank

theorem violations_eq_nil_iff :
    check.violations earlier = [] ↔ check.Complete ∧ check.id ∉ earlier.map Check.id := by
  rw [← forall_not_broken_iff, violations, List.map_eq_nil_iff, brokenRules,
    List.filter_eq_nil_iff]
  simp only [decide_eq_true_eq]

theorem issuesAll_eq_nil_iff
    (checks : List Check) :
    issuesAll [] checks = [] ↔
      (∀ check ∈ checks, check.Complete) ∧ (checks.map Check.id).Nodup := by
  induction checks using List.reverseRecOn with
  | nil =>
      simp [issuesAll]
  | append_singleton checks check ih =>
      rw [issuesAll_concat, List.append_eq_nil_iff, ih, violations_eq_nil_iff,
        List.forall_mem_append, List.forall_mem_singleton, List.map_append, List.map_singleton,
        List.nodup_append_comm, List.singleton_append, List.nodup_cons]
      tauto

end Validity

section Counts

variable (earlier : List Check) (check : Check)

/-- The names of steps apart, a problem is reported when its rule is broken. -/
theorem issue_mem_violations_iff
    {rule : Rule}
    (hrules : rule ∈ check.rules)
    (hrule : ∀ step, rule ≠ .nameFilled step) :
    rule.issue check ∈ check.violations earlier ↔ rule.Broken earlier check := by
  simp only [violations, brokenRules, List.mem_map, List.mem_filter, decide_eq_true_eq]
  constructor
  · rintro ⟨other, ⟨_, hbroken⟩, hissue⟩
    obtain rfl := Rule.eq_of_issue_eq hrule hissue
    exact hbroken
  · intro hbroken
    exact ⟨rule, ⟨hrules, hbroken⟩, rfl⟩

/-- The problems of a kind are as many as the broken rules that are reported so. -/
theorem countP_violations
    (p : Issue → Bool) :
    (check.violations earlier).countP p =
      check.rules.countP fun rule => p (rule.issue check) && rule.Broken earlier check := by
  rw [violations, brokenRules, List.countP_map, List.countP_filter]
  rfl

theorem countP_isDuplicate_violations :
    (check.violations earlier).countP Issue.isDuplicate =
      if Rule.idFresh.Broken earlier check then 1 else 0 := by
  simp only [countP_violations, rules, List.countP_append, List.countP_cons, List.countP_nil,
    List.countP_map, Function.comp_def]
  simp [Rule.issue, Issue.isDuplicate]

/-- A blank identifier is not a repeated one as well. -/
theorem countP_isAboutId_violations_le :
    (check.violations earlier).countP Issue.isAboutId ≤ 1 := by
  simp only [countP_violations, rules, List.countP_append, List.countP_cons, List.countP_nil,
    List.countP_map, Function.comp_def]
  cases hblank : Text.isBlank check.id with
  | true =>
      simp [Rule.issue, Issue.isAboutId, Rule.Broken, hblank]
  | false =>
      by_cases hrepeated : ∃ other ∈ earlier, other.id = check.id
      · simp [Rule.issue, Issue.isAboutId, Rule.Broken, hblank, hrepeated]
      · simp [Rule.issue, Issue.isAboutId, Rule.Broken, hblank, hrepeated]

/-- A blank file is not outside the root as well. -/
theorem countP_isAboutFile_violations_le :
    (check.violations earlier).countP Issue.isAboutFile ≤ 1 := by
  simp only [countP_violations, rules, List.countP_append, List.countP_cons, List.countP_nil,
    List.countP_map, Function.comp_def]
  cases hblank : Text.isBlank check.file with
  | true =>
      simp [Rule.issue, Issue.isAboutFile, Rule.Broken, hblank]
  | false =>
      by_cases hleaves : Path.isAbsolute check.file = true ∨ .parent ∈ Path.components check.file
      · simp [Rule.issue, Issue.isAboutFile, Rule.Broken, hblank, hleaves]
      · simp [Rule.issue, Issue.isAboutFile, Rule.Broken, hblank, hleaves]

/-- Every step with a blank name is reported once. -/
theorem count_name_violations :
    (check.violations earlier).count (.missingField check.id "select.name") =
      check.select.countP fun step => ∃ name ∈ step.name?, Text.isBlank name = true := by
  simp only [List.count, countP_violations, rules, List.countP_append, List.countP_cons,
    List.countP_nil, List.countP_map, Function.comp_def]
  simp [Rule.issue, Rule.Broken]

end Counts

section Duplicates

theorem length_dedup_concat
    (l : List String)
    (a : String) :
    (l ++ [a]).dedup.length = if a ∈ l then l.dedup.length else l.dedup.length + 1 := by
  rw [(List.perm_append_singleton a l).dedup.length_eq]
  split
  · rename_i hmem
    rw [List.dedup_cons_of_mem hmem]
  · rename_i hmem
    rw [List.dedup_cons_of_notMem hmem, List.length_cons]

/-- The identifiers that are filled in. -/
def filledIds (checks : List Check) : List String :=
  (checks.map Check.id).filter fun id => !Text.isBlank id

theorem idFresh_broken_iff
    (earlier : List Check)
    {check : Check}
    (hblank : Text.isBlank check.id = false) :
    Rule.idFresh.Broken earlier check ↔ check.id ∈ filledIds earlier := by
  simp [Rule.Broken, filledIds, hblank]

theorem countP_isDuplicate_issuesAll
    (checks : List Check) :
    (issuesAll [] checks).countP Issue.isDuplicate + (filledIds checks).dedup.length =
      (filledIds checks).length := by
  -- From the end of the list: the last check repeats an identifier of those before it or none.
  induction checks using List.reverseRecOn with
  | nil =>
      rfl
  | append_singleton checks check ih =>
      rw [issuesAll_concat, List.countP_append, countP_isDuplicate_violations]
      cases hblank : Text.isBlank check.id with
      | true =>
          have hids : filledIds (checks ++ [check]) = filledIds checks := by
            simp [filledIds, hblank]
          rw [if_neg (by simp [Rule.Broken, hblank]), hids]
          omega
      | false =>
          have hids : filledIds (checks ++ [check]) = filledIds checks ++ [check.id] := by
            simp [filledIds, hblank]
          rw [hids, length_dedup_concat, List.length_append, List.length_singleton]
          simp only [idFresh_broken_iff checks hblank]
          split
          · omega
          · omega

end Duplicates
end Check

namespace Rubric

/-- The rubrics that validation is to accept. -/
structure Valid (rubric : Rubric) : Prop where
  checks : rubric.checks ≠ []
  complete : ∀ check ∈ rubric.checks, check.Complete
  ids : (rubric.checks.map Check.id).Nodup

variable (rubric : Rubric)

/-- What there is to report of a check at a position of a rubric. -/
def violationsAt (check : Check) (i : Nat) : List Issue :=
  check.violations (rubric.checks.take i)

/-- What there is to report of a rubric: that it has no checks, or what its checks have. -/
def violations : List Issue :=
  (if rubric.checks = [] then [.noChecks] else []) ++
    rubric.checks.zipIdx.flatMap fun entry => rubric.violationsAt entry.1 entry.2

theorem issues_eq_violations :
    rubric.issues = rubric.violations := by
  rw [issues, violations, Check.issuesAll_eq_flatMap]
  simp [violationsAt]

/-- Every problem comes from a rubric without checks, or from a rule that a check breaks. -/
theorem mem_issues_iff
    {issue : Issue} :
    issue ∈ rubric.issues ↔
      issue = .noChecks ∧ rubric.checks = [] ∨
        ∃ (check : Check) (i : Nat), rubric.checks[i]? = some check ∧
          ∃ rule ∈ check.rules, rule.Broken (rubric.checks.take i) check ∧
            rule.issue check = issue := by
  rw [issues_eq_violations, violations, List.mem_append, List.mem_flatMap]
  refine or_congr (by split <;> simp_all) ?_
  simp only [Prod.exists, List.mem_zipIdx_iff_getElem?, violationsAt, Check.violations,
    Check.brokenRules, List.mem_map, List.mem_filter, decide_eq_true_eq, and_assoc]

theorem issues_eq_noChecks_iff :
    rubric.issues = [.noChecks] ↔ rubric.checks = [] := by
  constructor
  · intro h
    have hmem : .noChecks ∈ rubric.issues := by
      rw [h]
      exact List.mem_singleton_self _
    rcases rubric.mem_issues_iff.mp hmem with ⟨_, hchecks⟩ | ⟨check, i, _, rule, _, _, hissue⟩
    · exact hchecks
    · cases rule <;> cases hissue
  · intro h
    rw [issues, h]
    rfl

theorem issues_eq_nil_iff :
    rubric.issues = [] ↔ rubric.Valid := by
  rw [issues, List.append_eq_nil_iff, Check.issuesAll_eq_nil_iff]
  constructor
  · rintro ⟨hchecks, hcomplete, hids⟩
    exact ⟨by simpa using hchecks, hcomplete, hids⟩
  · rintro ⟨hchecks, hcomplete, hids⟩
    exact ⟨by simpa using hchecks, hcomplete, hids⟩

theorem countP_isDuplicate_issues :
    rubric.issues.countP Issue.isDuplicate + (Check.filledIds rubric.checks).dedup.length =
      (Check.filledIds rubric.checks).length := by
  have hnone :
      (if rubric.checks.isEmpty then [Issue.noChecks] else []).countP Issue.isDuplicate = 0 := by
    split
    · rfl
    · rfl
  rw [issues, List.countP_append, hnone, Nat.zero_add, Check.countP_isDuplicate_issuesAll]

variable (check : Check) (i : Nat)

/-- An identifier is reported as repeated when a check at an earlier position has it. -/
theorem duplicateId_mem_violationsAt_iff :
    .duplicateId check.id ∈ rubric.violationsAt check i ↔
      Text.isBlank check.id = false ∧
        ∃ j other, j < i ∧ rubric.checks[j]? = some other ∧ other.id = check.id := by
  have hbroken :
      Rule.idFresh.issue check ∈ rubric.violationsAt check i ↔
        Rule.idFresh.Broken (rubric.checks.take i) check :=
    check.issue_mem_violations_iff _ (by simp [Check.rules]) (by simp)
  rw [← Rule.issue, hbroken, Rule.Broken]
  refine and_congr_right fun _ => ?_
  simp only [List.mem_take_iff_getElem, List.getElem?_eq_some_iff]
  constructor
  · rintro ⟨other, ⟨j, hj, rfl⟩, hid⟩
    exact ⟨j, _, by omega, ⟨by omega, rfl⟩, hid⟩
  · rintro ⟨j, other, hj, ⟨hlt, rfl⟩, hid⟩
    exact ⟨_, ⟨j, by omega, rfl⟩, hid⟩

theorem membersListed_mem_violationsAt_iff :
    .missingField check.id "expect.props" ∈ rubric.violationsAt check i ↔
      check.expect = .members [] := by
  have hbroken :
      Rule.membersListed.issue check ∈ rubric.violationsAt check i ↔
        Rule.membersListed.Broken (rubric.checks.take i) check :=
    check.issue_mem_violations_iff _ (by simp [Check.rules]) (by simp)
  rw [← Rule.issue, hbroken, Rule.Broken]
  cases check.expect <;> simp

theorem membersNamed_mem_violationsAt_iff :
    .missingField check.id "expect.props.name" ∈ rubric.violationsAt check i ↔
      ∃ expected, check.expect = .members expected ∧
        ∃ member ∈ expected, Text.isBlank member.name = true := by
  have hbroken :
      Rule.membersNamed.issue check ∈ rubric.violationsAt check i ↔
        Rule.membersNamed.Broken (rubric.checks.take i) check :=
    check.issue_mem_violations_iff _ (by simp [Check.rules]) (by simp)
  rw [← Rule.issue, hbroken, Rule.Broken]
  cases check.expect <;> simp

/-- Validation accepts the valid rubrics.  Of any other rubric it reports one problem for every rule
that is broken, check by check and in the order of the rules: a repeated identifier for the checks
whose identifier is filled in and stands at an earlier check, at most one problem of an identifier
and one of a file, one for every blank name of a step, and the problems of a list of members
independently of each other. -/
theorem issues_reports_brokenRules :
    (rubric.issues = [] ↔ rubric.Valid) ∧
      rubric.issues = rubric.violations ∧
      (rubric.issues = [.noChecks] ↔ rubric.checks = []) ∧
      rubric.issues.countP Issue.isDuplicate + (Check.filledIds rubric.checks).dedup.length =
        (Check.filledIds rubric.checks).length ∧
      ∀ check i,
        (.duplicateId check.id ∈ rubric.violationsAt check i ↔
            Text.isBlank check.id = false ∧
              ∃ j other, j < i ∧ rubric.checks[j]? = some other ∧ other.id = check.id) ∧
          (rubric.violationsAt check i).countP Issue.isAboutId ≤ 1 ∧
          (rubric.violationsAt check i).countP Issue.isAboutFile ≤ 1 ∧
          (rubric.violationsAt check i).count (.missingField check.id "select.name") =
            (check.select.countP fun step => ∃ name ∈ step.name?, Text.isBlank name = true) ∧
          (.missingField check.id "expect.props" ∈ rubric.violationsAt check i ↔
            check.expect = .members []) ∧
          (.missingField check.id "expect.props.name" ∈ rubric.violationsAt check i ↔
            ∃ expected, check.expect = .members expected ∧
              ∃ member ∈ expected, Text.isBlank member.name = true) := by
  refine ⟨rubric.issues_eq_nil_iff, rubric.issues_eq_violations, rubric.issues_eq_noChecks_iff,
    rubric.countP_isDuplicate_issues, ?_⟩
  intro check i
  exact ⟨rubric.duplicateId_mem_violationsAt_iff check i,
    check.countP_isAboutId_violations_le _,
    check.countP_isAboutFile_violations_le _,
    check.count_name_violations _,
    rubric.membersListed_mem_violationsAt_iff check i,
    rubric.membersNamed_mem_violationsAt_iff check i⟩

example :
    (Rubric.mk ⟨"sample", none⟩
      [⟨"a", "a.ts", none, [], .present⟩,
       ⟨"a", "../a.ts", none, [.classNamed " ", .body], .members []⟩] none).issues =
      [.duplicateId "a", .fileOutsideRoot "a" "../a.ts", .missingField "a" "select.name",
       .missingField "a" "expect.props"] := by
  decide

end Rubric
end SnippetRubric
