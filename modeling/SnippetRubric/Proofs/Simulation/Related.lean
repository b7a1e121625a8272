import Mathlib.Data.List.Forall2

/-!
# Related options and lists

Two options are related when both are empty or their contents are related; two lists are related
when they have equal length and related elements in order.  What is computed from related options
and lists by related functions is related, or equal.
-/

namespace Option

variable {α β γ δ : Type} {R : α → β → Prop} {S : γ → δ → Prop} {x : Option α} {y : Option β}

/-- Related options are both empty, or both hold something. -/
theorem Rel.eq_none_or_eq_some
    (h : Rel R x y) :
    (x = .none ∧ y = .none) ∨ ∃ a b, x = .some a ∧ y = .some b ∧ R a b := by
  cases h with
  | none =>
      exact Or.inl ⟨rfl, rfl⟩
  | some hab =>
      exact Or.inr ⟨_, _, rfl, rfl, hab⟩

/-- What both options hold is at hand for the second relation. -/
theorem Rel.imp_of_eq_some
    {R' : α → β → Prop}
    (h : Rel R x y)
    (himp : ∀ a b, x = .some a → y = .some b → R a b → R' a b) :
    Rel R' x y := by
  cases h with
  | none =>
      exact .none
  | some hab =>
      exact .some (himp _ _ rfl rfl hab)

theorem Rel.imp
    {R' : α → β → Prop}
    (h : Rel R x y)
    (himp : ∀ a b, R a b → R' a b) :
    Rel R' x y :=
  h.imp_of_eq_some fun a b _ _ => himp a b

theorem Rel.map
    {f : α → γ}
    {g : β → δ}
    (h : Rel R x y)
    (hfg : ∀ a b, R a b → S (f a) (g b)) :
    Rel S (x.map f) (y.map g) := by
  cases h with
  | none =>
      exact .none
  | some hab =>
      exact .some (hfg _ _ hab)

theorem Rel.getD
    {a : α}
    {b : β}
    (h : Rel R x y)
    (hab : R a b) :
    R (x.getD a) (y.getD b) := by
  cases h with
  | none =>
      exact hab
  | some hxy =>
      exact hxy

/-- What both options hold is at hand for the functions. -/
theorem Rel.bind_of_eq_some
    {f : α → Option γ}
    {g : β → Option δ}
    (h : Rel R x y)
    (hfg : ∀ a b, x = .some a → y = .some b → R a b → Rel S (f a) (g b)) :
    Rel S (x.bind f) (y.bind g) := by
  cases h with
  | none =>
      exact .none
  | some hab =>
      exact hfg _ _ rfl rfl hab

theorem Rel.bind
    {f : α → Option γ}
    {g : β → Option δ}
    (h : Rel R x y)
    (hfg : ∀ a b, R a b → Rel S (f a) (g b)) :
    Rel S (x.bind f) (y.bind g) :=
  h.bind_of_eq_some fun a b _ _ => hfg a b

theorem Rel.bind_eq
    {f : α → Option γ}
    {g : β → Option γ}
    (h : Rel R x y)
    (hfg : ∀ a b, R a b → f a = g b) :
    x.bind f = y.bind g := by
  cases h with
  | none =>
      rfl
  | some hab =>
      exact hfg _ _ hab

theorem Rel.any_eq
    {p : α → Bool}
    {q : β → Bool}
    (h : Rel R x y)
    (hpq : ∀ a b, R a b → p a = q b) :
    x.any p = y.any q := by
  cases h with
  | none =>
      rfl
  | some hab =>
      exact hpq _ _ hab

theorem Rel.isSome_eq
    (h : Rel R x y) :
    x.isSome = y.isSome := by
  cases h <;> rfl

/-- Where one of two related options is empty, another pair of related options decides. -/
theorem Rel.or
    {x' : Option α}
    {y' : Option β}
    (h : Rel R x y)
    (h' : Rel R x' y') :
    Rel R (x.or x') (y.or y') := by
  cases h with
  | none =>
      exact h'
  | some hab =>
      exact .some hab

theorem Rel.filter
    {p : α → Bool}
    {q : β → Bool}
    (h : Rel R x y)
    (hpq : ∀ a b, R a b → p a = q b) :
    Rel R (x.filter p) (y.filter q) := by
  cases h with
  | none =>
      exact .none
  | @some a b hab =>
      cases hp : p a with
      | true =>
          rw [Option.filter_some_pos hp, Option.filter_some_pos (hpq a b hab ▸ hp)]
          exact .some hab
      | false =>
          rw [Option.filter_some_neg hp, Option.filter_some_neg (hpq a b hab ▸ hp)]
          exact .none

theorem Rel.toList
    (h : Rel R x y) :
    List.Forall₂ R x.toList y.toList := by
  cases h with
  | none =>
      exact .nil
  | some hab =>
      exact .cons hab .nil

end Option

namespace List

variable {α β γ δ : Type} {R : α → β → Prop} {S : γ → δ → Prop} {l : List α} {m : List β}

theorem Forall₂.isEmpty_eq
    (h : Forall₂ R l m) :
    l.isEmpty = m.isEmpty := by
  cases h <;> rfl

theorem Forall₂.head?
    (h : Forall₂ R l m) :
    Option.Rel R l.head? m.head? := by
  cases h with
  | nil =>
      exact .none
  | cons hab _ =>
      exact .some hab

theorem Forall₂.getElem?
    (h : Forall₂ R l m)
    (i : Nat) :
    Option.Rel R l[i]? m[i]? := by
  induction h generalizing i with
  | nil =>
      exact .none
  | cons hab _ ih =>
      cases i with
      | zero =>
          exact .some hab
      | succ i =>
          exact ih i

theorem Forall₂.map
    {f : α → γ}
    {g : β → δ}
    (h : Forall₂ R l m)
    (hfg : ∀ a b, R a b → S (f a) (g b)) :
    Forall₂ S (l.map f) (m.map g) :=
  rel_map (fun a b hab => hfg a b hab) h

theorem Forall₂.filter
    {p : α → Bool}
    {q : β → Bool}
    (h : Forall₂ R l m)
    (hpq : ∀ a b, R a b → p a = q b) :
    Forall₂ R (l.filter p) (m.filter q) :=
  rel_filter (fun a b hab => iff_of_eq (congrArg (· = true) (hpq a b hab))) h

/-- Searches that agree on related elements find related elements. -/
theorem Forall₂.find?
    {p : α → Bool}
    {q : β → Bool}
    (h : Forall₂ R l m)
    (hpq : ∀ a b, R a b → p a = q b) :
    Option.Rel R (l.find? p) (m.find? q) := by
  rw [← head?_filter, ← head?_filter]
  exact (h.filter hpq).head?

theorem Forall₂.filterMap
    {f : α → Option γ}
    {g : β → Option δ}
    (h : Forall₂ R l m)
    (hfg : ∀ a b, R a b → Option.Rel S (f a) (g b)) :
    Forall₂ S (l.filterMap f) (m.filterMap g) :=
  rel_filterMap (fun a b hab => hfg a b hab) h

theorem Forall₂.findSome?
    {f : α → Option γ}
    {g : β → Option δ}
    (h : Forall₂ R l m)
    (hfg : ∀ a b, R a b → Option.Rel S (f a) (g b)) :
    Option.Rel S (l.findSome? f) (m.findSome? g) := by
  rw [← head?_filterMap, ← head?_filterMap]
  exact (h.filterMap hfg).head?

theorem Forall₂.filterMap_eq
    {f : α → Option γ}
    {g : β → Option γ}
    (h : Forall₂ R l m)
    (hfg : ∀ a b, R a b → f a = g b) :
    l.filterMap f = m.filterMap g := by
  induction h with
  | nil =>
      rfl
  | cons hab _ ih =>
      rw [filterMap_cons, filterMap_cons, hfg _ _ hab, ih]

/-- Functions that agree on related elements have the same images on what related tests keep. -/
theorem Forall₂.map_filter_eq
    {p : α → Bool}
    {q : β → Bool}
    {f : α → γ}
    {g : β → γ}
    (h : Forall₂ R l m)
    (hpq : ∀ a b, R a b → p a = q b)
    (hfg : ∀ a b, R a b → p a = true → f a = g b) :
    (l.filter p).map f = (m.filter q).map g := by
  induction h with
  | nil =>
      rfl
  | @cons a b _ _ hab _ ih =>
      cases hp : p a with
      | true =>
          rw [filter_cons_of_pos hp, filter_cons_of_pos (hpq a b hab ▸ hp), map_cons, map_cons,
            hfg a b hab hp, ih]
      | false =>
          rw [filter_cons_of_neg (by simp [hp]), filter_cons_of_neg (by simp [← hpq a b hab, hp]),
            ih]

end List
