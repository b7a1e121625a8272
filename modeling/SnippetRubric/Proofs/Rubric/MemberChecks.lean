import SnippetRubric.Proofs.Fragment.Reading
import SnippetRubric.Proofs.Handle.TypeMembers
import SnippetRubric.Proofs.Rubric.Resolution

/-!
# Checks of members

An expectation may list several members of a type.  It is judged by looking for the first entry that
is not met, whereas `Handle.hasMembers` asks for all entries at once.  The two agree, and the entry
that is reported is the first one that is not met (`Expectation.judge_members_passed_iff`,
`Expectation.judge_members_failed_iff`).

The main statement is `Check.member_checks_factor`: each entry falls into independent parts, and a
list says no more than its entries do.
-/

namespace SnippetRubric

section Lists

variable {parse : Parser} {h : Handle} {expected expected' : List ExpectedMember}

theorem Handle.hasMembers_iff :
    h.hasMembers parse expected = true ↔ ∀ m ∈ expected, h.hasMember parse m = true :=
  List.all_eq_true

/-- A list of members is judged as a set: neither the order nor repetitions count. -/
theorem Handle.hasMembers_eq_of_mem_iff
    (hsame : ∀ m, m ∈ expected ↔ m ∈ expected') :
    h.hasMembers parse expected = h.hasMembers parse expected' := by
  rw [Bool.eq_iff_iff, hasMembers_iff, hasMembers_iff]
  simp only [hsame]

theorem Expectation.judge_members_passed_iff :
    (Expectation.members expected).judge parse h = .passed ↔
      h.hasMembers parse expected = true := by
  rw [Handle.hasMembers_iff, judge]
  cases hfirst : expected.find? fun member => !h.hasMember parse member with
  | none =>
      simpa using hfirst
  | some member =>
      have hunmet : h.hasMember parse member = false := by
        simpa using List.find?_some hfirst
      simp only [reduceCtorEq, false_iff]
      intro hall
      rw [hall member (List.mem_of_find?_eq_some hfirst)] at hunmet
      cases hunmet

/-- A list of members fails with the first entry that is not met. -/
theorem Expectation.judge_members_failed_iff
    {failure : Failure} :
    (Expectation.members expected).judge parse h = .failed failure ↔
      ∃ member,
        IsFirst (fun m => h.hasMember parse m = false) expected member ∧
          failure = .otherMember member.name := by
  have hunmet : ∀ m, (!h.hasMember parse m) = true ↔ h.hasMember parse m = false := by
    simp
  simp only [← find?_eq_some_iff_isFirst hunmet]
  rw [judge]
  cases expected.find? fun member => !h.hasMember parse member with
  | none =>
      simp
  | some member =>
      simp [eq_comm]

end Lists

namespace Check

/-- What is expected of the members of a type falls into independent parts.

* An entry is met when its type is and its question mark is; a member that is there may be left out
  or may not, and never both.
* A list of entries is met as the set of its members, and two lists together when each of them is.
* A check whose selection leads somewhere passes when the list is met there, and fails with the name
  of the first entry that is not. -/
theorem member_checks_factor
    (parse : Parser)
    (h : Handle) :
    (∀ name type optional,
      h.hasMember parse ⟨name, type, optional⟩ =
        (h.hasMember parse ⟨name, type, none⟩ && h.hasMember parse ⟨name, none, optional⟩)) ∧
    (∀ name type,
      (h.hasMember parse ⟨name, type, none⟩ = true →
        Xor (h.hasMember parse ⟨name, type, some true⟩ = true)
          (h.hasMember parse ⟨name, type, some false⟩ = true)) ∧
      (h.hasMember parse ⟨name, type, none⟩ = false →
        h.hasMember parse ⟨name, type, some true⟩ = false ∧
          h.hasMember parse ⟨name, type, some false⟩ = false)) ∧
    (∀ expected expected' : List ExpectedMember,
      (∀ m, m ∈ expected ↔ m ∈ expected') →
        h.hasMembers parse expected = h.hasMembers parse expected') ∧
    (∀ expected expected' : List ExpectedMember,
      h.hasMembers parse (expected ++ expected') =
        (h.hasMembers parse expected && h.hasMembers parse expected')) ∧
    ∀ (source : String) (check : Check) (expected : List ExpectedMember),
      check.expect = .members expected →
        resolve parse source check.select = h →
          h.isEmpty = false →
            (check.evaluate parse source = .passed ↔ h.hasMembers parse expected = true) ∧
            ∀ failure,
              check.evaluate parse source = .failed failure ↔
                ∃ member,
                  IsFirst (fun m => h.hasMember parse m = false) expected member ∧
                    failure = .otherMember member.name ∧
                      failure.message = "member '" ++ member.name ++ "' is missing or differs" := by
  have hfactor := h.hasMember_eq_and parse
  refine ⟨hfactor, fun name type => ⟨fun hmember => ?_, fun hmember => ?_⟩, ?_, ?_, ?_⟩
  · rw [h.hasMember_flag parse name type hmember]
    cases h.hasMember parse ⟨name, type, some false⟩ with
    | true =>
        exact Or.inr ⟨rfl, by simp⟩
    | false =>
        exact Or.inl ⟨rfl, by simp⟩
  · rw [hfactor name type (some true), hfactor name type (some false), hmember]
    exact ⟨rfl, rfl⟩
  · intro expected expected' hsame
    exact Handle.hasMembers_eq_of_mem_iff hsame
  · intro expected expected'
    exact List.all_append
  · intro source check expected hexpect hresolve hfound
    have hjudge : check.evaluate parse source = (Expectation.members expected).judge parse h := by
      rw [check.evaluate_of_found parse source (hresolve ▸ hfound), hexpect, hresolve]
    rw [hjudge]
    refine ⟨Expectation.judge_members_passed_iff, fun failure => ?_⟩
    rw [Expectation.judge_members_failed_iff]
    constructor
    · rintro ⟨member, hfirst, rfl⟩
      exact ⟨member, hfirst, rfl, rfl⟩
    · rintro ⟨member, hfirst, hfailure, _⟩
      exact ⟨member, hfirst, hfailure⟩

section Samples

open Handle (memberParser interfaceText)

/-- What a check of the sample expects: a member that is there, one that is not, and again one that
is not. -/
def wantedMembers : List ExpectedMember :=
  [⟨"x", some "number", some true⟩, ⟨"y", none, none⟩, ⟨"x", none, some false⟩]

/-- The member of the interface may be left out and so is not required, its entry may be repeated,
and a list with two entries that are not met fails with the first of them. -/
theorem member_checks_factor_of_interface :
    (resolve memberParser interfaceText [.interfaceNamed "P"]).isEmpty = false ∧
    Xor
      ((resolve memberParser interfaceText [.interfaceNamed "P"]).hasMember memberParser
        ⟨"x", some "number", some true⟩ = true)
      ((resolve memberParser interfaceText [.interfaceNamed "P"]).hasMember memberParser
        ⟨"x", some "number", some false⟩ = true) ∧
    (resolve memberParser interfaceText [.interfaceNamed "P"]).hasMembers memberParser
        [⟨"x", none, none⟩, ⟨"x", none, none⟩] =
      (resolve memberParser interfaceText [.interfaceNamed "P"]).hasMembers memberParser
        [⟨"x", none, none⟩] ∧
    (sampleCheck [.interfaceNamed "P"] (.members wantedMembers)).evaluate memberParser
        interfaceText =
      .failed (.otherMember "y") := by
  have hfound : (resolve memberParser interfaceText [.interfaceNamed "P"]).isEmpty = false := by
    decide
  have hmember :
      (resolve memberParser interfaceText [.interfaceNamed "P"]).hasMember memberParser
        ⟨"x", some "number", some true⟩ = true := by
    decide
  have hmissing :
      (resolve memberParser interfaceText [.interfaceNamed "P"]).hasMember memberParser
        ⟨"y", none, none⟩ = false := by
    decide
  obtain ⟨hfactor, hflags, hset, _, hcheck⟩ :=
    member_checks_factor memberParser (resolve memberParser interfaceText [.interfaceNamed "P"])
  have htype :
      (resolve memberParser interfaceText [.interfaceNamed "P"]).hasMember memberParser
        ⟨"x", some "number", none⟩ = true := by
    have hboth := hfactor "x" (some "number") (some true)
    rw [hmember, eq_comm, Bool.and_eq_true] at hboth
    exact hboth.1
  refine ⟨hfound, (hflags "x" (some "number")).1 htype, hset _ _ (by simp), ?_⟩
  obtain ⟨_, hfailed⟩ :=
    hcheck interfaceText (sampleCheck [.interfaceNamed "P"] (.members wantedMembers))
      wantedMembers rfl rfl hfound
  refine (hfailed _).mpr ⟨⟨"y", none, none⟩, ⟨[⟨"x", some "number", some true⟩],
    [⟨"x", none, some false⟩], rfl, hmissing, ?_⟩, rfl, rfl⟩
  intro m hm
  obtain rfl := List.mem_singleton.mp hm
  simp [hmember]

end Samples

end Check
end SnippetRubric
