import SnippetRubric.Proofs.Rubric.Validity
import SnippetRubric.Rubric.Report

/-!
# Where a run reads

Validation looks at the components of a file, and a run joins the text of the file to the text of its
root.  For a complete check the two agree: the path that is read lies below the root
(`Check.Complete.path_below`), whatever way the root and the file are spelled.  What a run of a
valid rubric reports does therefore not depend on anything outside the root
(`Rubric.run_congr_of_below`).

In the other direction validation refuses no file that stays inside
(`Rubric.fileOutsideRoot_notMem_issues`).  The main statement is
`Rubric.validation_confines_reads`.
-/

namespace SnippetRubric
namespace Check

section Paths

variable {check : Check} (root : String)

/-- The path of a complete check is its root, followed by the names of its file. -/
theorem Complete.components_path
    (h : check.Complete) :
    ∃ added,
      Path.components (check.path root) = Path.components root ++ added ∧
        added.filter (· ≠ .current) = (Path.names check.file).map .normal ∧
        .root ∉ added ∧
        .parent ∉ added ∧
        (root ≠ "" → .current ∉ added) := by
  obtain ⟨added, hcomponents, hnames, hcurrent⟩ :=
    Path.components_join_of_staysInside root (Path.staysInside_iff.mpr h.inside)
  obtain ⟨hroot, hparent⟩ := Path.not_mem_of_filter_eq_names hnames
  exact ⟨added, hcomponents, hnames, hroot, hparent, hcurrent⟩

theorem Complete.path_below
    (h : check.Complete) :
    Path.Below root (check.path root) := by
  obtain ⟨added, hcomponents, _, hroot, hparent, _⟩ := h.components_path root
  exact ⟨added, hcomponents, hroot, hparent⟩

/-- The file of a complete check never takes the place of the root. -/
theorem Complete.path_eq
    (h : check.Complete) :
    check.path root = root ++ check.file ∨ check.path root = root ++ "/" ++ check.file := by
  rcases Path.join_of_relative root h.inside.1 with ⟨hjoin, _⟩ | ⟨hjoin, _⟩
  · exact Or.inl hjoin
  · exact Or.inr hjoin

/-- A run of a check reads one path. -/
theorem run_congr
    {parse : Parser}
    {read other : Reader}
    (h : read (check.path root) = other (check.path root)) :
    check.run parse read root = check.run parse other root := by
  rw [run, run, h]

end Paths
end Check

namespace Rubric

variable {rubric : Rubric}

/-- A run of a valid rubric depends on nothing but what lies below its root. -/
theorem run_congr_of_below
    (hvalid : rubric.Valid)
    {root : String}
    {parse : Parser}
    {read other : Reader}
    (h : ∀ path, Path.Below root path → read path = other path) :
    rubric.run parse read root = rubric.run parse other root := by
  refine List.map_congr_left fun check hcheck => ?_
  have hbelow := (hvalid.complete check hcheck).path_below root
  exact Check.run_congr root (h _ hbelow)

/-- A file that is relative and never goes to a parent is not reported as outside. -/
theorem fileOutsideRoot_notMem_issues
    {file : String}
    (hrelative : Path.isAbsolute file = false)
    (hparent : .parent ∉ Path.components file)
    (id : String) :
    .fileOutsideRoot id file ∉ rubric.issues := by
  intro hmem
  rcases rubric.mem_issues_iff.mp hmem with ⟨hissue, _⟩ | ⟨check, i, _, rule, _, hbroken, hissue⟩
  · cases hissue
  · cases rule <;> cases hissue
    exact hbroken.2 ⟨hrelative, hparent⟩

/-- A valid rubric is read below its root: the path of every check is the root, followed by the names
of the check's file, and a run depends on no other path.  Validation refuses only the files that are
absolute or go to a parent. -/
theorem validation_confines_reads
    (rubric : Rubric) :
    (rubric.issues = [] →
        ∀ root : String,
          (∀ check ∈ rubric.checks,
            (check.path root = root ++ check.file ∨
                check.path root = root ++ "/" ++ check.file) ∧
              Path.isAbsolute (check.path root) = Path.isAbsolute root ∧
              ∃ added,
                Path.components (check.path root) = Path.components root ++ added ∧
                  added.filter (· ≠ .current) = (Path.names check.file).map .normal ∧
                  .root ∉ added ∧
                  .parent ∉ added ∧
                  (root ≠ "" → .current ∉ added)) ∧
            ∀ (parse : Parser) (read other : Reader),
              (∀ path, Path.Below root path → read path = other path) →
                rubric.run parse read root = rubric.run parse other root) ∧
      ∀ file : String,
        Path.isAbsolute file = false →
          .parent ∉ Path.components file →
            ∀ id, .fileOutsideRoot id file ∉ rubric.issues := by
  refine ⟨?_, fun file hrelative hparent id => fileOutsideRoot_notMem_issues hrelative hparent id⟩
  intro hissues root
  have hvalid := rubric.issues_eq_nil_iff.mp hissues
  refine ⟨fun check hcheck => ?_, fun parse read other h => run_congr_of_below hvalid h⟩
  have hcomplete := hvalid.complete check hcheck
  exact ⟨hcomplete.path_eq root, Path.isAbsolute_join root hcomplete.inside.1,
    hcomplete.components_path root⟩

/-- A check whose file has a leading dot, repeated slashes and names made of dots. -/
def dottedCheck : Check :=
  ⟨"dots", "./src//.../x..ts/", none, [.classNamed "A"], .present⟩

/-- A rubric with one check. -/
def dottedSample : Rubric :=
  ⟨⟨"sample", none⟩, [dottedCheck], none⟩

/-- Only the file of the accounts can be read. -/
def accountsOnly : Reader :=
  fun path => if path = "/etc/passwd" then .ok "root:x:0:0" else .error .notFound

/-- Under `/srv//work/` the accounts are out of reach of the sample. -/
theorem validation_confines_dottedSample :
    dottedSample.issues = [] ∧
      dottedCheck ∈ dottedSample.checks ∧
      (∃ added,
        Path.components (dottedCheck.path "/srv//work/") =
            Path.components "/srv//work/" ++ added ∧
          added.filter (· ≠ .current) = [.normal "src", .normal "...", .normal "x..ts"]) ∧
      (∀ path, Path.Below "/srv//work/" path → accountsOnly path = .error .notFound) ∧
      dottedSample.run (fun _ => .node ⟨"program", none, true, false, ⟨0, 0⟩⟩ []) accountsOnly
          "/srv//work/" =
        dottedSample.run (fun _ => .node ⟨"program", none, true, false, ⟨0, 0⟩⟩ [])
          (fun _ => .error .notFound) "/srv//work/" ∧
      .fileOutsideRoot "dots" "./src//.../x..ts/" ∉ dottedSample.issues := by
  have hissues : dottedSample.issues = [] := by decide
  have hmem : dottedCheck ∈ dottedSample.checks := List.mem_singleton_self _
  have hbelow :
      ∀ path, Path.Below "/srv//work/" path → accountsOnly path = .error .notFound := by
    rintro path ⟨added, hcomponents, _⟩
    have hpath : path ≠ "/etc/passwd" := by
      rintro rfl
      have hroot : Path.components "/srv//work/" = [.root, .normal "srv", .normal "work"] := by
        decide
      have haccounts : Path.components "/etc/passwd" = [.root, .normal "etc", .normal "passwd"] := by
        decide
      rw [hroot, haccounts] at hcomponents
      simp at hcomponents
    exact if_neg hpath
  obtain ⟨hpaths, hreads⟩ := (validation_confines_reads dottedSample).1 hissues "/srv//work/"
  obtain ⟨_, _, added, hcomponents, hnames, _⟩ := hpaths dottedCheck hmem
  refine ⟨hissues, hmem, ⟨added, hcomponents, ?_⟩, hbelow, hreads _ _ _ hbelow, ?_⟩
  · rw [hnames]
    decide
  · exact (validation_confines_reads dottedSample).2 _ (by decide) (by decide) "dots"

end Rubric
end SnippetRubric
