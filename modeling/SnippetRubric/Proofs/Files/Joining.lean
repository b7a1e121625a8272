import SnippetRubric.Files.Path

/-!
# Components of joined paths

Joining works on the text of two paths, and components are what the text means.  The two are brought
together by the segments: a slash divides the segments of a path (`segmentsOf_append_slash`), so that
a relative path that is joined to another one adds its own components to it, a leading dot apart
(`components_join`).

A path stays inside when it is relative and never goes to a parent (`staysInside_iff`).  Joined to
any root, such a path adds nothing but its names (`components_join_of_staysInside`).
-/

namespace SnippetRubric
namespace Path

section Segments

theorem segmentsOf_ne_nil :
    ∀ cs : List Char, segmentsOf cs ≠ []
  | [] => by simp [segmentsOf]
  | c :: cs => by
      rw [segmentsOf]
      split
      · simp
      · split
        · simp
        · simp

theorem segmentsOf_cons_of_ne
    {c : Char}
    (hc : c ≠ '/')
    (cs : List Char) :
    ∃ segment rest, segmentsOf cs = segment :: rest ∧
      segmentsOf (c :: cs) = (c :: segment) :: rest := by
  obtain ⟨segment, rest, hcs⟩ := List.exists_cons_of_ne_nil (segmentsOf_ne_nil cs)
  refine ⟨segment, rest, hcs, ?_⟩
  rw [segmentsOf, if_neg hc, hcs]

/-- A slash divides the segments before it from those after it. -/
theorem segmentsOf_append_slash
    (xs ys : List Char) :
    segmentsOf (xs ++ '/' :: ys) = segmentsOf xs ++ segmentsOf ys := by
  induction xs with
  | nil =>
      simp [segmentsOf]
  | cons c xs ih =>
      by_cases hc : c = '/'
      · subst hc
        simp [segmentsOf, ih]
      · obtain ⟨segment, rest, hxs, hcons⟩ := segmentsOf_cons_of_ne hc xs
        rw [hcons, List.cons_append, segmentsOf, if_neg hc, ih, hxs]
        rfl

theorem eq_nil_of_segmentsOf
    {cs : List Char}
    (h : segmentsOf cs = [[]]) :
    cs = [] := by
  cases cs with
  | nil =>
      rfl
  | cons c cs =>
      by_cases hc : c = '/'
      · subst hc
        have hrest : segmentsOf cs = [] := by simpa [segmentsOf] using h
        exact absurd hrest (segmentsOf_ne_nil cs)
      · obtain ⟨segment, rest, _, hcons⟩ := segmentsOf_cons_of_ne hc cs
        rw [hcons] at h
        cases h

/-- A path starts at the root when its first segment is empty and is not the only one. -/
theorem isAbsolute_iff_of_segments
    {path : String}
    {first : List Char}
    {rest : List (List Char)}
    (h : segments path = first :: rest) :
    isAbsolute path = true ↔ first = [] ∧ rest ≠ [] := by
  rw [segments] at h
  rw [isAbsolute]
  cases hpath : path.toList with
  | nil =>
      rw [hpath, segmentsOf] at h
      cases h
      simp
  | cons c cs =>
      rw [hpath] at h
      by_cases hc : c = '/'
      · subst hc
        rw [segmentsOf, if_pos rfl] at h
        cases h
        simp [segmentsOf_ne_nil cs]
      · obtain ⟨segment, tail, _, hcons⟩ := segmentsOf_cons_of_ne hc cs
        rw [hcons] at h
        cases h
        simp [hc]

end Segments

section Components

theorem inner?_eq_some
    {segment : List Char}
    {component : Component}
    (h : inner? segment = some component) :
    component = .parent ∨ ∃ name, component = .normal name := by
  unfold inner? at h
  split at h
  · cases h
  · cases h
  · exact Or.inl (Option.some.inj h).symm
  · exact Or.inr ⟨_, (Option.some.inj h).symm⟩

/-- Inside a path no segment means the root or the current directory. -/
theorem mem_filterMap_inner?
    {segments : List (List Char)}
    {component : Component}
    (h : component ∈ segments.filterMap inner?) :
    component ≠ .root ∧ component ≠ .current := by
  obtain ⟨segment, _, hsegment⟩ := List.mem_filterMap.mp h
  rcases inner?_eq_some hsegment with rfl | ⟨name, rfl⟩
  · simp
  · simp

theorem leading_true
    {first : List Char}
    {more : Bool}
    (h : first = [] → more = true) :
    leading first more = leading first true := by
  cases first with
  | nil =>
      rw [h rfl]
  | cons c segment =>
      unfold leading
      split <;> simp_all

theorem components_of_segments
    {path : String}
    {first : List Char}
    {rest : List (List Char)}
    (h : segments path = first :: rest) :
    components path = leading first (!rest.isEmpty) ++ rest.filterMap inner? := by
  rw [components, h]

/-- The components of a path with a slash in it, in terms of the segments on both sides. -/
theorem components_of_slash
    {path : String}
    {xs ys first : List Char}
    {rest : List (List Char)}
    (hpath : path.toList = xs ++ '/' :: ys)
    (hxs : segmentsOf xs = first :: rest) :
    components path =
      leading first true ++ rest.filterMap inner? ++ (segmentsOf ys).filterMap inner? := by
  have hsegments : segments path = first :: (rest ++ segmentsOf ys) := by
    rw [segments, hpath, segmentsOf_append_slash, hxs, List.cons_append]
  have hmore : (!(rest ++ segmentsOf ys).isEmpty) = true := by
    simp [segmentsOf_ne_nil ys]
  rw [components_of_segments hsegments, hmore, List.filterMap_append, List.append_assoc]

theorem filter_filterMap_inner?
    (segments : List (List Char)) :
    (segments.filterMap inner?).filter (· ≠ .current) = segments.filterMap inner? := by
  apply List.filter_eq_self.mpr
  intro component hcomponent
  simpa using (mem_filterMap_inner? hcomponent).2

theorem filter_leading
    {segment : List Char}
    {more : Bool}
    (h : segment = [] → more = false) :
    (leading segment more).filter (· ≠ .current) = [segment].filterMap inner? := by
  have hone : [segment].filterMap inner? = (inner? segment).toList := by
    cases hinner : inner? segment with
    | none =>
        simp [hinner]
    | some component =>
        simp [hinner]
  unfold leading
  split
  · simp [h rfl, inner?]
  · simp [inner?]
  · rw [← hone, filter_filterMap_inner?]

/-- A relative path means what its segments mean inside a path, a leading dot apart. -/
theorem filter_components_of_relative
    {path : String}
    (h : isAbsolute path = false) :
    (components path).filter (· ≠ .current) = (segments path).filterMap inner? := by
  obtain ⟨first, rest, hsegments⟩ := List.exists_cons_of_ne_nil (segmentsOf_ne_nil path.toList)
  have hmore : first = [] → (!rest.isEmpty) = false := by
    intro hfirst
    have hrelative := (not_congr (isAbsolute_iff_of_segments hsegments)).mp (by simp [h])
    simpa [hfirst] using hrelative
  rw [components_of_segments hsegments, List.filter_append, filter_filterMap_inner?,
    filter_leading hmore, segments, hsegments, ← List.filterMap_append, List.singleton_append]

theorem root_mem_leading_iff
    {segment : List Char}
    {more : Bool} :
    .root ∈ leading segment more ↔ segment = [] ∧ more = true := by
  unfold leading
  split
  · simp
  · simp
  · rename_i hnil _
    constructor
    · intro hroot
      rcases inner?_eq_some (Option.mem_toList.mp hroot) with h | ⟨name, h⟩
      · cases h
      · cases h
    · rintro ⟨h, _⟩
      exact (hnil h).elim

/-- The root is a component of the paths that start at it. -/
theorem root_mem_components_iff
    {path : String} :
    .root ∈ components path ↔ isAbsolute path = true := by
  obtain ⟨first, rest, hsegments⟩ := List.exists_cons_of_ne_nil (segmentsOf_ne_nil path.toList)
  have hrest : Component.root ∉ rest.filterMap inner? :=
    fun hmem => (mem_filterMap_inner? hmem).1 rfl
  rw [isAbsolute_iff_of_segments hsegments, components_of_segments hsegments, List.mem_append,
    or_iff_left hrest, root_mem_leading_iff]
  simp

/-- A path stays inside when it is relative and never goes to a parent directory. -/
theorem staysInside_iff
    {path : String} :
    staysInside path = true ↔ isAbsolute path = false ∧ .parent ∉ components path := by
  rw [← Bool.not_eq_true, ← root_mem_components_iff, staysInside, List.all_eq_true]
  constructor
  · intro h
    exact ⟨fun hroot => by simpa using h _ hroot, fun hparent => by simpa using h _ hparent⟩
  · rintro ⟨hroot, hparent⟩ component hcomponent
    cases component with
    | root =>
        exact absurd hcomponent hroot
    | parent =>
        exact absurd hcomponent hparent
    | current =>
        rfl
    | normal name =>
        rfl

end Components

section Join

theorem join_empty
    (file : String) :
    join "" file = file := by
  simp [join]

theorem join_of_relative
    (base : String)
    {file : String}
    (h : isAbsolute file = false) :
    join base file = base ++ file ∧ (base = "" ∨ base.toList.getLast? = some '/') ∨
      join base file = base ++ "/" ++ file ∧ base ≠ "" ∧ base.toList.getLast? ≠ some '/' := by
  unfold join
  rw [h]
  split
  · contradiction
  · split
    · rename_i hbase
      exact Or.inl ⟨rfl, by simpa using hbase⟩
    · rename_i hbase
      exact Or.inr ⟨rfl, by simpa using hbase⟩

/-- A relative path adds its components to the path that it is joined to, without leading dot. -/
theorem components_join
    {base file : String}
    (hbase : base ≠ "")
    (hfile : isAbsolute file = false) :
    components (join base file) =
      components base ++ (components file).filter (· ≠ .current) := by
  rw [filter_components_of_relative hfile, segments]
  -- The slash between the two is the last one of the base, or the one that joining adds.
  rcases join_of_relative base hfile with ⟨hjoin, hend⟩ | ⟨hjoin, _, hend⟩
  · have hlast : base.toList.getLast? = some '/' := hend.resolve_left hbase
    obtain ⟨xs, hxs⟩ : ∃ xs, base.toList = xs ++ ['/'] := List.getLast?_eq_some_iff.mp hlast
    obtain ⟨first, rest, hsegments⟩ := List.exists_cons_of_ne_nil (segmentsOf_ne_nil xs)
    have hjoined : (join base file).toList = xs ++ '/' :: file.toList := by
      simp [hjoin, hxs]
    rw [components_of_slash hjoined hsegments, components_of_slash hxs hsegments]
    simp [segmentsOf, inner?]
  · obtain ⟨first, rest, hsegments⟩ := List.exists_cons_of_ne_nil (segmentsOf_ne_nil base.toList)
    have hjoined : (join base file).toList = base.toList ++ '/' :: file.toList := by
      simp [hjoin]
    have hmore : first = [] → (!rest.isEmpty) = true := by
      rintro rfl
      cases rest with
      | nil =>
          have hempty := eq_nil_of_segmentsOf hsegments
          exact absurd (String.toList_eq_nil_iff.mp hempty) hbase
      | cons segment rest =>
          rfl
    rw [components_of_slash hjoined hsegments, components_of_segments hsegments,
      leading_true hmore]

theorem isAbsolute_join
    (base : String)
    {file : String}
    (h : isAbsolute file = false) :
    isAbsolute (join base file) = isAbsolute base := by
  cases hbase : base.toList with
  | nil =>
      obtain rfl : base = "" := String.toList_eq_nil_iff.mp hbase
      rw [join_empty, h]
      rfl
  | cons c cs =>
      rcases join_of_relative base h with ⟨hjoin, _⟩ | ⟨hjoin, _⟩
      · simp [isAbsolute, hjoin, hbase]
      · simp [isAbsolute, hjoin, hbase]

end Join

section Confined

/-- The name that a component stands for. -/
def Component.name? : Component → Option String
  | normal name => some name
  | _ => none

/-- The names that a path goes through. -/
def names (path : String) : List String :=
  (components path).filterMap Component.name?

theorem filter_eq_map_name?
    (l : List Component)
    (hroot : .root ∉ l)
    (hparent : .parent ∉ l) :
    l.filter (· ≠ .current) = (l.filterMap Component.name?).map .normal := by
  induction l with
  | nil =>
      rfl
  | cons component rest ih =>
      have ih := ih (List.not_mem_of_not_mem_cons hroot) (List.not_mem_of_not_mem_cons hparent)
      cases component with
      | root =>
          simp at hroot
      | parent =>
          simp at hparent
      | current =>
          rw [List.filterMap_cons_none rfl]
          simpa using ih
      | normal name =>
          have hname : (Component.normal name).name? = some name := rfl
          rw [List.filterMap_cons_some hname]
          simpa using ih

/-- A path that stays inside goes through its names and nothing else. -/
theorem filter_components_of_staysInside
    {file : String}
    (h : staysInside file = true) :
    (components file).filter (· ≠ .current) = (names file).map .normal := by
  obtain ⟨hrelative, hparent⟩ := staysInside_iff.mp h
  have hroot : Component.root ∉ components file := by
    rw [root_mem_components_iff, hrelative]
    simp
  exact filter_eq_map_name? (components file) hroot hparent

/-- The components that a path adds to a root are names and dots. -/
def Below (root path : String) : Prop :=
  ∃ added, components path = components root ++ added ∧ .root ∉ added ∧ .parent ∉ added

/-- A path that stays inside adds its names to any root that it is joined to; a leading dot counts
only where the root is empty. -/
theorem components_join_of_staysInside
    (root : String)
    {file : String}
    (h : staysInside file = true) :
    ∃ added,
      components (join root file) = components root ++ added ∧
        added.filter (· ≠ .current) = (names file).map .normal ∧
        (root ≠ "" → .current ∉ added) := by
  have hrelative := (staysInside_iff.mp h).1
  have hnames := filter_components_of_staysInside h
  by_cases hroot : root = ""
  · subst hroot
    -- Nothing stands before the file, so that its leading dot still leads.
    refine ⟨components file, ?_, hnames, fun hne => absurd rfl hne⟩
    rw [join_empty]
    rfl
  · refine ⟨(components file).filter (· ≠ .current), components_join hroot hrelative, ?_, ?_⟩
    · rw [List.filter_filter]
      simpa using hnames
    · simp

/-- Components that are names, apart from dots, never lead to the root or to a parent. -/
theorem not_mem_of_filter_eq_names
    {added : List Component}
    {names : List String}
    (h : added.filter (· ≠ .current) = names.map .normal) :
    .root ∉ added ∧ .parent ∉ added := by
  have hnot :
      ∀ component, component ≠ .current → (∀ name, component ≠ .normal name) →
        component ∉ added := by
    intro component hcurrent hnormal hmem
    have hkept : component ∈ added.filter (· ≠ .current) := by
      simp [hmem, hcurrent]
    rw [h] at hkept
    obtain ⟨name, _, hname⟩ := List.mem_map.mp hkept
    exact hnormal name hname.symm
  exact ⟨hnot _ (by simp) (by simp), hnot _ (by simp) (by simp)⟩

end Confined
end Path
end SnippetRubric
