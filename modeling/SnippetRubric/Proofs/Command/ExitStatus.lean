import SnippetRubric.Command.Run
import SnippetRubric.Proofs.Rubric.Validity

/-!
# What the exit status of a check run means

A run of `check` can go wrong in many places: the rubric or a checked file cannot be read, the
document is malformed, the schema does not fit, validation complains, an expectation fails.  All of
them end in the same status.  `Rubric.Stored` says what it takes for a path to hold a rubric and
`Check.Passes` what it takes for a check to pass, both without running anything.  Loading finds
exactly the stored rubrics (`Rubric.load_eq_ok_iff`) and a report is positive exactly for the checks
that pass (`Check.isPassed_run_iff`), so the status, the summary line and the two output modes all
speak of the same thing.  The main statement is `Command.exit_of_check_tells_truth`.
-/

namespace SnippetRubric

/-! ## Loading -/

namespace Rubric

/-- The text at a path is a document that describes a valid rubric. -/
def Stored (read : Reader) (path : String) (rubric : Rubric) : Prop :=
  ∃ text document,
    read path = .ok text ∧
      Document.Toml.read? text = some document ∧
      Schema.rubric .toml document = .ok rubric ∧
      rubric.Valid

variable {read : Reader} {path : String} {rubric loaded : Rubric}

theorem ofDocument_eq_ok_iff
    {origin : RubricOrigin}
    {document : Document.Value} :
    ofDocument origin document = .ok rubric ↔
      Schema.rubric .toml document = .ok rubric ∧ rubric.Valid := by
  rw [ofDocument]
  cases hdecode : Schema.rubric .toml document with
  | error problem => simp
  | ok decoded =>
      have hempty : decoded.issues.isEmpty = true ↔ decoded.Valid := by
        rw [List.isEmpty_iff, decoded.issues_eq_nil_iff]
      by_cases hvalid : decoded.Valid
      · simp only [if_pos (hempty.mpr hvalid), Except.ok.injEq]
        exact ⟨fun h => ⟨h, h ▸ hvalid⟩, And.left⟩
      · simp only [if_neg (mt hempty.mp hvalid), reduceCtorEq, Except.ok.injEq, false_iff, not_and]
        exact fun h => h ▸ hvalid

theorem ofText_eq_ok_iff
    {origin : RubricOrigin}
    {text : String} :
    ofText origin text = .ok rubric ↔
      ∃ document, Document.Toml.read? text = some document ∧
        Schema.rubric .toml document = .ok rubric ∧ rubric.Valid := by
  rw [ofText]
  cases Document.Toml.read? text with
  | none => simp
  | some document => simp [ofDocument_eq_ok_iff]

theorem stored_iff :
    rubric.Stored read path ↔
      ∃ text, read path = .ok text ∧ ofText (.file path) text = .ok rubric := by
  simp only [Stored, ofText_eq_ok_iff, exists_and_left]

/-- Loading finds the stored rubric and adds the directory. -/
theorem load_eq_ok_iff :
    load read path = .ok loaded ↔
      ∃ rubric : Rubric, rubric.Stored read path ∧
        { rubric with directory := some (Path.directory path) } = loaded := by
  simp only [stored_iff, load]
  cases read path with
  | error reason => simp
  | ok text =>
      simp only [Except.ok.injEq, exists_eq_left']
      cases ofText (.file path) text with
      | error e => simp [Except.map]
      | ok rubric => simp [Except.map]

theorem Stored.valid
    (h : rubric.Stored read path) :
    rubric.Valid := by
  obtain ⟨_, _, _, _, _, hvalid⟩ := h
  exact hvalid

theorem Stored.load_eq
    (h : rubric.Stored read path) :
    load read path = .ok { rubric with directory := some (Path.directory path) } :=
  load_eq_ok_iff.mpr ⟨rubric, h, rfl⟩

end Rubric

/-! ## Reports -/

namespace Check

/-- The file of the check can be read under the root, and the check passes on its text. -/
def Passes (parse : Parser) (read : Reader) (root : String) (check : Check) : Prop :=
  ∃ source,
    read (Path.join root check.file) = .ok source ∧ check.evaluate parse source = .passed

variable {parse : Parser} {read : Reader} {root : String} {check : Check}

theorem isPassed_run_iff :
    (check.run parse read root).isPassed = true ↔ check.Passes parse read root := by
  rw [Passes, Report.isPassed, run, path]
  cases read (Path.join root check.file) with
  | error reason => simp [RunResult.isPassed]
  | ok source =>
      cases houtcome : check.evaluate parse source <;>
        simp [RunResult.isPassed, Outcome.isPassed, houtcome]

instance : Decidable (check.Passes parse read root) :=
  decidable_of_iff _ isPassed_run_iff

end Check

namespace Rubric

variable {parse : Parser} {read : Reader} {root : String} {rubric : Rubric}

theorem all_isPassed_run_iff :
    (rubric.run parse read root).all Report.isPassed = true ↔
      ∀ check ∈ rubric.checks, check.Passes parse read root := by
  simp only [run, List.all_map, List.all_eq_true, Function.comp_apply, Check.isPassed_run_iff]

theorem countP_isPassed_run :
    (rubric.run parse read root).countP Report.isPassed =
      rubric.checks.countP fun check => check.Passes parse read root := by
  rw [run, List.countP_map]
  refine List.countP_congr fun check _ => ?_
  rw [Function.comp_apply, Check.isPassed_run_iff, decide_eq_true_iff]

/-- The two numbers of the summary: the checks that pass and all others. -/
theorem tally_run (parse : Parser) (read : Reader) (root : String) (rubric : Rubric) :
    ∃ passed failed,
      Report.tally (rubric.run parse read root) = (passed, failed) ∧
        passed = rubric.checks.countP (fun check => check.Passes parse read root) ∧
        passed + failed = rubric.checks.length ∧
        (failed = 0 ↔ ∀ check ∈ rubric.checks, check.Passes parse read root) := by
  have hpassed :
      ((rubric.run parse read root).filter Report.isPassed).length =
        rubric.checks.countP fun check => check.Passes parse read root := by
    rw [← List.countP_eq_length_filter, countP_isPassed_run]
  have hlength : (rubric.run parse read root).length = rubric.checks.length := List.length_map _
  have hle :
      rubric.checks.countP (fun check => check.Passes parse read root) ≤ rubric.checks.length :=
    List.countP_le_length
  have hall :
      rubric.checks.countP (fun check => check.Passes parse read root) = rubric.checks.length ↔
        ∀ check ∈ rubric.checks, check.Passes parse read root := by
    simp only [List.countP_eq_length, decide_eq_true_iff]
  refine ⟨_, _, rfl, hpassed, ?_, ?_⟩
  · omega
  · rw [← hall]
    omega

theorem root_withDirectory (rubric : Rubric) (given : Option String) (directory : String) :
    ({ rubric with directory := some directory } : Rubric).root given =
      given.getD directory := by
  cases given <;> rfl

end Rubric

/-! ## The command -/

namespace Command

variable (parse : Parser) (read : Reader) (styled : Bool) (path : String) (given : Option String)
  (json : Bool)

theorem exit_runCheck_of_stored
    {rubric : Rubric}
    (h : rubric.Stored read path) :
    (runCheck parse read styled path given json).exit =
      if ∀ check ∈ rubric.checks,
          check.Passes parse read (given.getD (Path.directory path)) then 0 else 1 := by
  simp only [runCheck, h.load_eq, Rubric.root_withDirectory, Rubric.all_isPassed_run_iff]

theorem exit_runCheck_of_not_stored
    (h : ¬ ∃ rubric : Rubric, rubric.Stored read path) :
    (runCheck parse read styled path given json).exit = 1 := by
  rw [runCheck]
  cases hload : Rubric.load read path with
  | error e => rfl
  | ok loaded =>
      obtain ⟨rubric, hstored, _⟩ := Rubric.load_eq_ok_iff.mp hload
      exact absurd ⟨rubric, hstored⟩ h

theorem exit_runCheck_eq_zero_iff :
    (runCheck parse read styled path given json).exit = 0 ↔
      ∃ rubric : Rubric, rubric.Stored read path ∧
        ∀ check ∈ rubric.checks,
          check.Passes parse read (given.getD (Path.directory path)) := by
  constructor
  · intro hexit
    by_cases hstored : ∃ rubric : Rubric, rubric.Stored read path
    · obtain ⟨rubric, h⟩ := hstored
      rw [exit_runCheck_of_stored parse read styled path given json h] at hexit
      exact ⟨rubric, h, by simpa using hexit⟩
    · rw [exit_runCheck_of_not_stored parse read styled path given json hstored] at hexit
      cases hexit
  · rintro ⟨rubric, h, hpasses⟩
    rw [exit_runCheck_of_stored parse read styled path given json h, if_pos hpasses]

theorem exit_runCheck_of_mode (json json' : Bool) :
    (runCheck parse read styled path given json).exit =
      (runCheck parse read styled path given json').exit := by
  by_cases hstored : ∃ rubric : Rubric, rubric.Stored read path
  · obtain ⟨rubric, h⟩ := hstored
    simp only [exit_runCheck_of_stored parse read styled path given _ h]
  · simp only [exit_runCheck_of_not_stored parse read styled path given _ hstored]

/-- The summary is the last line that is shown, after an empty one. -/
theorem out_runCheck_of_stored
    {rubric : Rubric}
    (h : rubric.Stored read path) :
    ∃ shown,
      (runCheck parse read styled path given false).out =
        Transcript.ofLines (shown ++
          ["", Report.summary styled
            (rubric.run parse read (given.getD (Path.directory path)))]) := by
  simp only [runCheck, h.load_eq, Rubric.root_withDirectory, Report.showText]
  exact ⟨_, rfl⟩

/-- The status is zero exactly if a rubric is stored at the path and all its checks pass, in either
output mode, and the summary says as much. -/
theorem exit_of_check_tells_truth :
    ((run parse read styled (.check path given json)).exit = 0 ↔
        ∃ rubric : Rubric, rubric.Stored read path ∧
          ∀ check ∈ rubric.checks,
            check.Passes parse read (given.getD (Path.directory path))) ∧
      (run parse read styled (.check path given true)).exit =
        (run parse read styled (.check path given false)).exit ∧
      (∀ rubric : Rubric, rubric.Stored read path →
        ∃ shown passed failed,
          (run parse read styled (.check path given false)).out =
              Transcript.ofLines (shown ++
                ["", (if failed = 0 then Style.green else Style.red).paint styled
                  s!"{passed} passed, {failed} failed"]) ∧
            passed = rubric.checks.countP
              (fun check => check.Passes parse read (given.getD (Path.directory path))) ∧
            passed + failed = rubric.checks.length ∧
            (failed = 0 ↔ (run parse read styled (.check path given false)).exit = 0)) ∧
      ((run parse read styled (.check path given json)).exit = 0 →
        ∃ rubric : Rubric, rubric.Stored read path ∧
          ∃ check ∈ rubric.checks,
            check.Passes parse read (given.getD (Path.directory path))) := by
  simp only [run]
  refine ⟨exit_runCheck_eq_zero_iff parse read styled path given json,
    exit_runCheck_of_mode parse read styled path given true false, ?_, ?_⟩
  · intro rubric h
    obtain ⟨shown, hout⟩ := out_runCheck_of_stored parse read styled path given h
    obtain ⟨passed, failed, htally, hpassed, hsum, hfailed⟩ :=
      rubric.tally_run parse read (given.getD (Path.directory path))
    refine ⟨shown, passed, failed, ?_, hpassed, hsum, ?_⟩
    · rw [hout, Report.summary, htally]
    · rw [exit_runCheck_of_stored parse read styled path given false h, hfailed]
      simp
  · intro hexit
    obtain ⟨rubric, h, hpasses⟩ :=
      (exit_runCheck_eq_zero_iff parse read styled path given json).mp hexit
    obtain ⟨check, hcheck⟩ := List.exists_mem_of_ne_nil _ h.valid.checks
    exact ⟨rubric, h, check, hcheck, hpasses check hcheck⟩

section Samples

def lessonText : String :=
  "checks = [\x7bid = 'a', file = 'a.ts', expect = \x7btype = 'exists'\x7d\x7d, " ++
    "\x7bid = 'b', file = 'b.ts', expect = \x7btype = 'absent'\x7d\x7d]"

def lesson : Rubric :=
  ⟨⟨"", none⟩, [⟨"a", "a.ts", none, [], .present⟩, ⟨"b", "b.ts", none, [], .absent⟩], none⟩

/-- Beside the rubric there is one of its files, in another directory there are both. -/
def lessonFiles : FileTree :=
  ⟨[(.near 0 ["lesson"], .directory),
    (.near 0 ["lesson", "rubric.toml"], .file lessonText.toUTF8),
    (.near 0 ["lesson", "a.ts"], .file "let a;".toUTF8),
    (.near 0 ["full"], .directory),
    (.near 0 ["full", "a.ts"], .file "let a;".toUTF8),
    (.near 0 ["full", "b.ts"], .file "".toUTF8)]⟩

def lessonParser : Parser := fun _ =>
  .node ⟨"program", none, true, false, ⟨0, 6⟩⟩
    [.node ⟨"lexical_declaration", none, true, false, ⟨0, 6⟩⟩ []]

theorem stored_lesson : lesson.Stored lessonFiles.read "lesson/rubric.toml" := by
  have hread : lessonFiles.read "lesson/rubric.toml" = .ok lessonText := by decide +kernel
  have hoption :
      (Rubric.ofText (.file "lesson/rubric.toml") lessonText).toOption = some lesson := by
    decide +kernel
  cases hof : Rubric.ofText (.file "lesson/rubric.toml") lessonText with
  | error e =>
      rw [hof] at hoption
      cases hoption
  | ok rubric =>
      rw [hof] at hoption
      obtain rfl := Option.some.inj hoption
      exact Rubric.stored_iff.mpr ⟨lessonText, hread, hof⟩

/-- A file that cannot be read fails its check, be it one that expects nothing to be found. -/
theorem exit_of_check_lesson :
    lesson.Stored lessonFiles.read "lesson/rubric.toml" ∧
      (run lessonParser lessonFiles.read false (.check "lesson/rubric.toml" none true)).exit ≠ 0 ∧
      (∃ shown,
        (run lessonParser lessonFiles.read false (.check "lesson/rubric.toml" none false)).out =
          Transcript.ofLines (shown ++ ["", "1 passed, 1 failed"])) ∧
      (run lessonParser lessonFiles.read false
        (.check "lesson/rubric.toml" (some "full") true)).exit = 0 ∧
      ∃ rubric : Rubric, rubric.Stored lessonFiles.read "lesson/rubric.toml" ∧
        ∃ check ∈ rubric.checks, check.Passes lessonParser lessonFiles.read "full" := by
  obtain ⟨_, hmode, htext, _⟩ :=
    exit_of_check_tells_truth lessonParser lessonFiles.read false "lesson/rubric.toml" none true
  obtain ⟨hiff, _, _, hsome⟩ :=
    exit_of_check_tells_truth lessonParser lessonFiles.read false "lesson/rubric.toml"
      (some "full") true
  obtain ⟨shown, passed, failed, hout, hpassed, hsum, hexit⟩ := htext lesson stored_lesson
  obtain rfl : passed = 1 := hpassed.trans (by decide +kernel)
  obtain rfl : failed = 1 := by
    have hlength : lesson.checks.length = 2 := rfl
    omega
  have hfull := hiff.mpr ⟨lesson, stored_lesson, by decide +kernel⟩
  refine ⟨stored_lesson, ?_, ⟨shown, hout⟩, hfull, hsome hfull⟩
  rw [hmode]
  exact fun h => absurd (hexit.mpr h) (by decide)

end Samples

end Command
end SnippetRubric
