import Mathlib.Data.List.Forall2
import Mathlib.Data.List.Nodup
import Mathlib.Data.List.Perm.Basic
import SnippetRubric.Document.Decode

/-!
# Layouts of a document

Whoever writes a record as a table has three liberties: the keys may stand in any order, a field
that equals its default may be left out, and keys that are not fields may be added.  A *template*
says what a value has to hold and which of its fields may be left out.  `Template.Layout` relates it
to all values that take some of these liberties, at every depth, and `Template.full` takes none.

A decoder *reads* a template as `a` when it decodes every layout of the template to `a`.  For a
record this comes down to two facts about one table: a field is found with a layout of its content,
or it may be left out and is not there (`Template.Layout.lookup_slot`), and every entry passes the
test of its declaration (`Template.Layout.test_eq`).
-/

namespace SnippetRubric
namespace Document

/-- A field of a record with its content. -/
structure Slot (τ : Type) where
  name : String
  omissible : Bool
  content : τ

/-- What a value has to hold. -/
inductive Template where
  | plain (v : Value)
  | list (elements : List Template)
  | record (slots : List (Slot Template))

/-- The entries written for slots, in the order of the slots. -/
inductive Filled {τ : Type} (R : τ → Value → Prop) :
    List (Slot τ) → List (String × Value) → Prop where
  | nil : Filled R [] []
  | write {slot slots v written}
      (hv : R slot.content v)
      (rest : Filled R slots written) :
      Filled R (slot :: slots) ((slot.name, v) :: written)
  | leave {slot slots written}
      (ho : slot.omissible = true)
      (rest : Filled R slots written) :
      Filled R (slot :: slots) written

namespace Template

/-- A text. -/
def text (s : String) : Template := .plain (.text s)

/-- A truth value. -/
def boolean (b : Bool) : Template := .plain (.boolean b)

/-- A natural number. -/
def natural (n : Nat) : Template := .plain (.integer n)

/-- A value, or null for none. -/
def nullable {α : Type} (value : α → Value) (a : Option α) : Template :=
  .plain (a.elim .null value)

/-- The values that hold what a template says. -/
inductive Layout : Template → Value → Prop where
  | plain (v : Value) : Layout (.plain v) v
  | list {elements vs}
      (h : List.Forall₂ Layout elements vs) :
      Layout (.list elements) (.list vs)
  | record {slots written others entries}
      (h : Filled Layout slots written)
      (hothers : ∀ entry ∈ others, entry.1 ∉ slots.map Slot.name)
      (hentries : entries.Perm (written ++ others)) :
      Layout (.record slots) (.table entries)

mutual

/-- Every field in the order of the slots, and nothing else. -/
def full : Template → Value
  | .plain v => v
  | .list elements => .list (fullAll elements)
  | .record slots => .table (fullSlots slots)

/-- The full values of several templates. -/
def fullAll : List Template → List Value
  | [] => []
  | t :: ts => t.full :: fullAll ts

/-- The full entries of several slots. -/
def fullSlots : List (Slot Template) → List (String × Value)
  | [] => []
  | ⟨name, _, content⟩ :: slots => (name, content.full) :: fullSlots slots

end

mutual

theorem layout_full : (t : Template) → t.Layout t.full
  | .plain v => .plain v
  | .list elements => .list (forall₂_fullAll elements)
  | .record slots =>
      .record (filled_fullSlots slots) (List.forall_mem_nil _)
        (by rw [List.append_nil])

theorem forall₂_fullAll :
    (ts : List Template) → List.Forall₂ Layout ts (fullAll ts)
  | [] => .nil
  | t :: ts => .cons (layout_full t) (forall₂_fullAll ts)

theorem filled_fullSlots :
    (slots : List (Slot Template)) → Filled Layout slots (fullSlots slots)
  | [] => .nil
  | ⟨_, _, content⟩ :: slots => .write (layout_full content) (filled_fullSlots slots)

end

end Template

namespace Filled

variable {τ : Type} {R : τ → Value → Prop} {slots : List (Slot τ)}
  {written : List (String × Value)}

theorem exists_slot
    (h : Filled R slots written)
    {name : String}
    {v : Value}
    (hmem : (name, v) ∈ written) :
    ∃ slot ∈ slots, slot.name = name ∧ R slot.content v := by
  induction h with
  | nil => cases hmem
  | @write slot _ _ _ hv _ ih =>
      rcases List.mem_cons.mp hmem with heq | hrest
      · obtain ⟨rfl, rfl⟩ := Prod.mk.inj heq
        exact ⟨slot, List.mem_cons_self, rfl, hv⟩
      · obtain ⟨found, hfound, hvalue⟩ := ih hrest
        exact ⟨found, List.mem_cons_of_mem _ hfound, hvalue⟩
  | leave _ _ ih =>
      obtain ⟨found, hfound, hvalue⟩ := ih hmem
      exact ⟨found, List.mem_cons_of_mem _ hfound, hvalue⟩

theorem exists_entry
    (h : Filled R slots written)
    {slot : Slot τ}
    (hslot : slot ∈ slots)
    (ho : slot.omissible = false) :
    ∃ v, (slot.name, v) ∈ written := by
  induction h with
  | nil => cases hslot
  | @write _ _ v _ _ _ ih =>
      rcases List.mem_cons.mp hslot with rfl | hrest
      · exact ⟨v, List.mem_cons_self⟩
      · obtain ⟨v, hv⟩ := ih hrest
        exact ⟨v, List.mem_cons_of_mem _ hv⟩
  | leave hleft _ ih =>
      rcases List.mem_cons.mp hslot with rfl | hrest
      · rw [ho] at hleft
        cases hleft
      · exact ih hrest

end Filled

namespace Template
namespace Layout

variable {slots : List (Slot Template)} {entries : List (String × Value)}

/-- A value under the name of a slot is a layout of the slot's content. -/
theorem content
    (h : Layout (.record slots) (.table entries))
    (hnames : (slots.map Slot.name).Nodup)
    {slot : Slot Template}
    (hslot : slot ∈ slots)
    {v : Value}
    (hmem : (slot.name, v) ∈ entries) :
    slot.content.Layout v := by
  cases h with
  | record hfilled hothers hentries =>
      rcases List.mem_append.mp (hentries.mem_iff.mp hmem) with hwritten | hother
      · obtain ⟨found, hfound, hname, hv⟩ := hfilled.exists_slot hwritten
        rwa [List.inj_on_of_nodup_map hnames hfound hslot hname] at hv
      · exact absurd (List.mem_map_of_mem hslot) (hothers _ hother)

/-- Only a slot that may be left out has no entry. -/
theorem omissible_of_forall_ne
    (h : Layout (.record slots) (.table entries))
    {slot : Slot Template}
    (hslot : slot ∈ slots)
    (hentries : ∀ entry ∈ entries, slot.name ≠ entry.1) :
    slot.omissible = true := by
  cases h with
  | record hfilled _ hperm =>
      by_contra ho
      obtain ⟨v, hv⟩ := hfilled.exists_entry hslot (Bool.eq_false_iff.mpr ho)
      exact hentries _ (hperm.mem_iff.mpr (List.mem_append_left _ hv)) rfl

theorem lookup_slot
    (h : Layout (.record slots) (.table entries))
    (hnames : (slots.map Slot.name).Nodup)
    {slot : Slot Template}
    (hslot : slot ∈ slots) :
    (∃ v, entries.lookup slot.name = some v ∧ slot.content.Layout v) ∨
      (entries.lookup slot.name = none ∧ slot.omissible = true) := by
  cases hlookup : entries.lookup slot.name with
  | some v =>
      obtain ⟨before, after, rfl, _⟩ := List.lookup_eq_some_iff.mp hlookup
      refine Or.inl ⟨v, rfl, h.content hnames hslot ?_⟩
      exact List.mem_append_right _ List.mem_cons_self
  | none =>
      have hne : ∀ entry ∈ entries, slot.name ≠ entry.1 := by
        intro entry hentry
        simpa using List.lookup_eq_none_iff.mp hlookup entry hentry
      exact Or.inr ⟨rfl, h.omissible_of_forall_ne hslot hne⟩

end Layout
end Template

/-! ## Reading templates -/

/-- The decoder finds `a` in every layout of the template. -/
def Reads {α : Type} (decode : Decoder α) (t : Template) (a : α) : Prop :=
  ∀ v, t.Layout v → decode v = .ok a

theorem reads_text (s : String) : Reads Decoder.text (.text s) s := by
  rintro _ ⟨⟩
  rfl

theorem reads_boolean (b : Bool) : Reads Decoder.boolean (.boolean b) b := by
  rintro _ ⟨⟩
  rfl

theorem reads_natural (n : Nat) : Reads Decoder.natural (.natural n) n := by
  rintro _ ⟨⟩
  simp [Decoder.natural]

theorem reads_nullable
    {α : Type}
    {decode : Decoder α}
    {value : α → Value}
    (hread : ∀ a, Reads decode (.plain (value a)) a)
    (hnull : ∀ a, value a ≠ .null)
    (a : Option α) :
    Reads (Decoder.nullable decode) (.nullable value a) a := by
  rintro _ ⟨⟩
  cases a with
  | none => rfl
  | some a =>
      have hdecode := hread a (value a) (.plain _)
      rw [Option.elim_some]
      cases hvalue : value a with
      | null => exact absurd hvalue (hnull a)
      | _ => simp [Decoder.nullable, ← hvalue, hdecode, Except.map]

theorem reads_nullable_text (s : Option String) :
    Reads (Decoder.nullable Decoder.text) (.nullable .text s) s :=
  reads_nullable reads_text nofun s

theorem reads_nullable_boolean (b : Option Bool) :
    Reads (Decoder.nullable Decoder.boolean) (.nullable .boolean b) b :=
  reads_nullable reads_boolean nofun b

theorem elements_of_forall₂
    {α : Type}
    {decode : Decoder α}
    {template : α → Template}
    {as : List α}
    (hread : ∀ a ∈ as, Reads decode (template a) a)
    {vs : List Value}
    (hvs : List.Forall₂ Template.Layout (as.map template) vs) :
    Decoder.elements decode vs = .ok as := by
  induction as generalizing vs with
  | nil =>
      cases hvs
      rfl
  | cons a as ih =>
      rw [List.map_cons] at hvs
      cases hvs with
      | cons hv hrest =>
          have hfirst := hread a List.mem_cons_self _ hv
          have hothers := ih (fun b hb => hread b (List.mem_cons_of_mem a hb)) hrest
          simp [Decoder.elements, hfirst, hothers, Except.map]

theorem reads_list
    {α : Type}
    {decode : Decoder α}
    {template : α → Template}
    {as : List α}
    (hread : ∀ a ∈ as, Reads decode (template a) a) :
    Reads (Decoder.list decode) (.list (as.map template)) as := by
  intro v hv
  cases hv with
  | list hvs => exact elements_of_forall₂ hread hvs

/-! ## Reading records -/

/-- Every declared field is a slot, and its test lets all layouts of the content pass. -/
def Declaration.Fits (declaration : Declaration) (slots : List (Slot Template)) : Prop :=
  ∀ declared ∈ declaration.fields, ∃ slot ∈ slots,
    slot.name = declared.1 ∧ ∀ v, slot.content.Layout v → declared.2 v = .ok ()

/-- Among the slots there is one whose content is read as `a`. -/
def HasField {α : Type} (slots : List (Slot Template)) (name : String) (omissible : Bool)
    (decode : Decoder α) (a : α) : Prop :=
  ∃ t, ⟨name, omissible, t⟩ ∈ slots ∧ Reads decode t a

theorem fits_nil (title : String) (slots : List (Slot Template)) :
    Declaration.Fits ⟨title, []⟩ slots :=
  List.forall_mem_nil _

theorem fits_cons
    {α : Type}
    {decode : Decoder α}
    {a : α}
    {title name : String}
    {omissible : Bool}
    {fields : List (String × (Value → Except DecodeError Unit))}
    {slots : List (Slot Template)}
    (hfield : HasField slots name omissible decode a)
    (hfields : Declaration.Fits ⟨title, fields⟩ slots) :
    Declaration.Fits ⟨title, field name decode :: fields⟩ slots := by
  obtain ⟨t, hslot, hread⟩ := hfield
  refine List.forall_mem_cons.mpr ⟨⟨_, hslot, rfl, ?_⟩, hfields⟩
  intro v hv
  simp [field, hread v hv, Except.map]

section Records

variable {α : Type} {decode : Decoder α} {a : α}
  {slots : List (Slot Template)} {entries : List (String × Value)}
  (h : Template.Layout (.record slots) (.table entries))
  (hnames : (slots.map Slot.name).Nodup)

include h hnames

theorem Template.Layout.test_eq
    {declaration : Declaration}
    (hfits : declaration.Fits slots) :
    Fields.test declaration entries = .ok () := by
  -- Suffixes of the table are tested, but what their values hold is known from the whole table.
  suffices hsuffix : ∀ rest, rest ⊆ entries → Fields.test declaration rest = .ok () from
    hsuffix entries (List.Subset.refl _)
  intro rest hrest
  induction rest with
  | nil => rfl
  | cons entry rest ih =>
      obtain ⟨name, v⟩ := entry
      obtain ⟨hentry, htail⟩ := List.cons_subset.mp hrest
      rw [Fields.test]
      cases hlookup : declaration.fields.lookup name with
      | none => exact ih htail
      | some passes =>
          obtain ⟨before, after, hfields, _⟩ := List.lookup_eq_some_iff.mp hlookup
          have hdeclared : (name, passes) ∈ declaration.fields := by
            rw [hfields]
            exact List.mem_append_right _ List.mem_cons_self
          obtain ⟨slot, hslot, rfl, hpasses⟩ := hfits _ hdeclared
          have hv : passes v = .ok () := hpasses v (h.content hnames hslot hentry)
          simp only [hv]
          exact ih htail

theorem Template.Layout.required_eq
    (declaration : Declaration)
    {name : String}
    (hfield : HasField slots name false decode a) :
    (Fields.named entries).required declaration name decode = .ok a := by
  obtain ⟨t, hslot, hread⟩ := hfield
  rw [Fields.required, Fields.entries]
  rcases h.lookup_slot hnames hslot with ⟨v, hlookup, hv⟩ | ⟨_, ho⟩
  · simp only [hlookup]
    exact hread v hv
  · cases ho

theorem Template.Layout.optional_eq
    (declaration : Declaration)
    {name : String}
    {default : α}
    [Decidable (a = default)]
    (hfield : HasField slots name (a = default) decode a) :
    (Fields.named entries).optional declaration name decode default = .ok a := by
  obtain ⟨t, hslot, hread⟩ := hfield
  rw [Fields.optional, Fields.entries]
  rcases h.lookup_slot hnames hslot with ⟨v, hlookup, hv⟩ | ⟨hlookup, ho⟩
  · simp only [hlookup]
    exact hread v hv
  · simp only [hlookup]
    rw [of_decide_eq_true ho]

end Records

/-- The fields of every layout of a record are read as `a`. -/
def ReadsFields {α : Type} (read : Fields → Except DecodeError α)
    (slots : List (Slot Template)) (a : α) : Prop :=
  ∀ entries, Template.Layout (.record slots) (.table entries) → read (.named entries) = .ok a

section ReadsFields

variable {α : Type} {a : α} {slots : List (Slot Template)}

theorem readsFields_decode
    {declaration : Declaration}
    {rule : Surplus}
    {build : Fields → Except DecodeError α}
    (hnames : (slots.map Slot.name).Nodup)
    (hfits : declaration.Fits slots)
    (hbuild : ReadsFields build slots a) :
    ReadsFields (fun fields => fields.decode declaration rule build) slots a := by
  intro entries h
  have htest := h.test_eq hnames hfits
  have hresult := hbuild entries h
  simp [Fields.decode, Fields.entries, htest, hresult, Fields.surplus, Except.map]

theorem reads_record
    (title : String)
    {read : Fields → Except DecodeError α}
    (hread : ReadsFields read slots a) :
    Reads (fun v => Fields.ofValue title v >>= read) (.record slots) a := by
  intro v hv
  cases hv with
  | record hfilled hothers hentries => exact hread _ (.record hfilled hothers hentries)

end ReadsFields

end Document
end SnippetRubric
