import Mathlib.Computability.RegularExpressions
import SnippetRubric.Handle.Basic

/-!
# The language of integer literals

The text of a number is scanned in steps: underscores are dropped, capitals are lowered, a suffix is
cut off, the start of the rest names the base, and what is left is held against the digits of that
base.  `IntegerLiteral.grammar` says as a regular expression which texts are integers, capitals and
suffix included.

* `IntegerLiteral.mem_unsuffixed_iff` compares the scan without the suffix with the expression
  without the suffix, and `IntegerLiteral.isIntegerText_iff` adds the suffix.
* `Tree.isIntegerLiteral_iff` follows the signs before a number, one unary expression after the
  other.

The main statement is `Handle.isInteger_iff_signed_integer`.
-/

namespace SnippetRubric
namespace IntegerLiteral

section Grammar

/-- One of these characters. -/
def oneOf (cs : List Char) : RegularExpression Char := (cs.map .char).sum

/-- One or more of these characters. -/
def someOf (cs : List Char) : RegularExpression Char := oneOf cs * (oneOf cs).star

/-- A base that is named by a letter behind a zero, in either case. -/
structure Base where
  letter : Char
  capital : Char
  radix : Nat
  digits : List Char

def hexadecimal : Base :=
  ⟨'x', 'X', 16,
    ['0', '1', '2', '3', '4', '5', '6', '7', '8', '9', 'a', 'b', 'c', 'd', 'e', 'f',
      'A', 'B', 'C', 'D', 'E', 'F']⟩

def octal : Base := ⟨'o', 'O', 8, ['0', '1', '2', '3', '4', '5', '6', '7']⟩

def binary : Base := ⟨'b', 'B', 2, ['0', '1']⟩

def decimalDigits : List Char := ['0', '1', '2', '3', '4', '5', '6', '7', '8', '9']

/-- The letters that name a base. -/
def Base.letters (base : Base) : List Char := [base.letter, base.capital]

/-- A zero, a letter of the base, and digits of the base. -/
def Base.numeral (base : Base) : RegularExpression Char :=
  .char '0' * oneOf base.letters * someOf base.digits

/-- An integer without a suffix. -/
def unsuffixed : RegularExpression Char :=
  hexadecimal.numeral + octal.numeral + binary.numeral + someOf decimalDigits

/-- The letters that may end an integer. -/
def suffixes : List Char := ['n', 'N']

/-- An integer, with at most one suffix. -/
def grammar : RegularExpression Char :=
  unsuffixed * (1 + oneOf suffixes)

end Grammar

section Words

theorem mem_char_iff
    {c : Char}
    {w : List Char} :
    w ∈ (RegularExpression.char c).matches' ↔ w = [c] :=
  Iff.rfl

theorem mem_oneOf_iff
    {w : List Char} :
    ∀ {cs : List Char}, w ∈ (oneOf cs).matches' ↔ ∃ c ∈ cs, w = [c]
  | [] => by
      simp [oneOf, Language.notMem_zero]
  | c :: cs => by
      have hrest : w ∈ ((cs.map RegularExpression.char).sum).matches' ↔ ∃ d ∈ cs, w = [d] :=
        mem_oneOf_iff
      rw [oneOf, List.map_cons, List.sum_cons, RegularExpression.matches'_add, Language.mem_add,
        hrest, mem_char_iff]
      simp

/-- Any number of characters of a class, one after the other. -/
theorem mem_star_oneOf_iff
    {cs w : List Char} :
    w ∈ (oneOf cs).star.matches' ↔ ∀ c ∈ w, c ∈ cs := by
  rw [RegularExpression.matches'_star, Language.mem_kstar]
  constructor
  · rintro ⟨parts, rfl, hparts⟩ c hc
    obtain ⟨part, hpart, hc⟩ := List.mem_flatten.mp hc
    obtain ⟨d, hd, rfl⟩ := mem_oneOf_iff.mp (hparts part hpart)
    obtain rfl := List.mem_singleton.mp hc
    exact hd
  · intro hw
    refine ⟨w.map fun c => [c], by rw [← List.flatMap_def, List.flatMap_singleton'], ?_⟩
    intro part hpart
    obtain ⟨c, hc, rfl⟩ := List.mem_map.mp hpart
    exact mem_oneOf_iff.mpr ⟨c, hw c hc, rfl⟩

theorem mem_someOf_iff
    {cs w : List Char} :
    w ∈ (someOf cs).matches' ↔ w ≠ [] ∧ ∀ c ∈ w, c ∈ cs := by
  rw [someOf, RegularExpression.matches'_mul, Language.mem_mul]
  constructor
  · rintro ⟨first, hfirst, rest, hrest, rfl⟩
    obtain ⟨c, hc, rfl⟩ := mem_oneOf_iff.mp hfirst
    have hrest := mem_star_oneOf_iff.mp hrest
    simpa using ⟨hc, hrest⟩
  · rintro ⟨hne, hw⟩
    obtain ⟨c, rest, rfl⟩ := List.exists_cons_of_ne_nil hne
    obtain ⟨hc, hrest⟩ := List.forall_mem_cons.mp hw
    exact ⟨[c], mem_oneOf_iff.mpr ⟨c, hc, rfl⟩, rest, mem_star_oneOf_iff.mpr hrest, rfl⟩

theorem Base.mem_numeral_iff
    {base : Base}
    {w : List Char} :
    w ∈ base.numeral.matches' ↔
      ∃ l ∈ base.letters, ∃ digits ∈ (someOf base.digits).matches', w = '0' :: l :: digits := by
  simp only [Base.numeral, RegularExpression.matches'_mul, Language.mem_mul, mem_char_iff,
    mem_oneOf_iff]
  constructor
  · rintro ⟨_, ⟨_, rfl, _, ⟨l, hl, rfl⟩, rfl⟩, digits, hdigits, rfl⟩
    exact ⟨l, hl, digits, hdigits, rfl⟩
  · rintro ⟨l, hl, digits, hdigits, rfl⟩
    exact ⟨_, ⟨_, rfl, _, ⟨l, hl, rfl⟩, rfl⟩, digits, hdigits, rfl⟩

/-- The bases that are named by a letter. -/
def bases : List Base := [hexadecimal, octal, binary]

theorem mem_unsuffixed_iff_numeral
    {w : List Char} :
    w ∈ unsuffixed.matches' ↔
      (∃ base ∈ bases, w ∈ base.numeral.matches') ∨ w ∈ (someOf decimalDigits).matches' := by
  simp [unsuffixed, RegularExpression.matches'_add, Language.mem_add, bases, or_assoc]

theorem mem_grammar_iff
    {w : List Char} :
    w ∈ grammar.matches' ↔
      w ∈ unsuffixed.matches' ∨
        ∃ v ∈ unsuffixed.matches', ∃ c ∈ suffixes, w = v ++ [c] := by
  simp only [grammar, RegularExpression.matches'_mul, Language.mem_mul,
    RegularExpression.matches'_add, Language.mem_add, RegularExpression.matches'_epsilon,
    Language.mem_one, mem_oneOf_iff]
  constructor
  · rintro ⟨v, hv, _, rfl | ⟨c, hc, rfl⟩, rfl⟩
    · rw [List.append_nil]
      exact Or.inl hv
    · exact Or.inr ⟨v, hv, c, hc, rfl⟩
  · rintro (hw | ⟨v, hv, c, hc, rfl⟩)
    · exact ⟨w, hw, [], Or.inl rfl, List.append_nil w⟩
    · exact ⟨v, hv, [c], Or.inr ⟨c, hc, rfl⟩, rfl⟩

end Words

section Characters

/-- A test that no character beyond the first 128 passes is settled by the first 128. -/
theorem iff_mem_of_ascii
    {p : Char → Prop}
    {cs : List Char}
    (hlow : ∀ i : Fin 128, p (Char.ofNat i) ↔ Char.ofNat i ∈ cs)
    (hhigh : ∀ c : Char, 128 ≤ c.toNat → ¬ p c)
    (hcs : ∀ d ∈ cs, d.toNat < 128)
    (c : Char) :
    p c ↔ c ∈ cs := by
  by_cases hc : c.toNat < 128
  · simpa using hlow ⟨c.toNat, hc⟩
  · have hp := hhigh c (by omega)
    have hmem : c ∉ cs := fun hmem => hc (hcs c hmem)
    simp [hp, hmem]

theorem toLower_of_le
    {c : Char}
    (hc : 128 ≤ c.toNat) :
    c.toLower = c := by
  have hnot : ¬ (c.val ≥ 'A'.val ∧ c.val ≤ 'Z'.val) := by
    rintro ⟨_, hle⟩
    have hle : c.toNat ≤ 'Z'.toNat := hle
    have hZ : 'Z'.toNat < 128 := by decide
    omega
  exact dif_neg hnot

theorem isDigit_of_le
    {c : Char}
    (hc : 128 ≤ c.toNat)
    (radix : Nat) :
    isDigit radix c = false := by
  have hnot : ∀ top : Char, top.toNat < 128 → ¬ c ≤ top := by
    intro top htop hle
    have hle : c.toNat ≤ top.toNat := hle
    omega
  rw [isDigit, if_neg (fun h => hnot '9' (by decide) h.2),
    if_neg (fun h => hnot 'z' (by decide) h.2), if_neg (fun h => hnot 'Z' (by decide) h.2)]

/-- The characters that are lowered to an ASCII character. -/
theorem toLower_eq_iff
    {target : Char}
    {cs : List Char}
    (hlow : ∀ i : Fin 128, (Char.ofNat i).toLower = target ↔ Char.ofNat i ∈ cs)
    (htarget : target.toNat < 128)
    (hcs : ∀ d ∈ cs, d.toNat < 128)
    (c : Char) :
    c.toLower = target ↔ c ∈ cs := by
  refine iff_mem_of_ascii (p := fun d => d.toLower = target) hlow (fun d hd hlower => ?_) hcs c
  rw [toLower_of_le hd] at hlower
  subst hlower
  omega

/-- The characters that are lowered to a digit. -/
theorem isDigit_toLower_iff
    {radix : Nat}
    {cs : List Char}
    (hlow : ∀ i : Fin 128, isDigit radix (Char.ofNat i).toLower = true ↔ Char.ofNat i ∈ cs)
    (hcs : ∀ d ∈ cs, d.toNat < 128)
    (c : Char) :
    isDigit radix c.toLower = true ↔ c ∈ cs := by
  refine iff_mem_of_ascii (p := fun d => isDigit radix d.toLower = true) hlow
    (fun d hd hdigit => ?_) hcs c
  rw [toLower_of_le hd, isDigit_of_le hd] at hdigit
  cases hdigit

variable {base : Base}

theorem Base.toLower_eq_letter_iff
    (hbase : base ∈ bases)
    (c : Char) :
    c.toLower = base.letter ↔ c ∈ base.letters := by
  apply toLower_eq_iff
  · revert base
    decide
  · revert base
    decide
  · revert base
    simp [bases, hexadecimal, octal, binary, Base.letters]

theorem Base.isDigit_toLower_iff
    (hbase : base ∈ bases)
    (c : Char) :
    isDigit base.radix c.toLower = true ↔ c ∈ base.digits := by
  apply IntegerLiteral.isDigit_toLower_iff
  · revert base
    decide
  · revert base
    simp [bases, hexadecimal, octal, binary]

theorem isDigit_ten_toLower_iff
    (c : Char) :
    isDigit 10 c.toLower = true ↔ c ∈ decimalDigits :=
  IntegerLiteral.isDigit_toLower_iff (by decide) (by simp [decimalDigits]) c

theorem toLower_eq_zero_iff
    (c : Char) :
    c.toLower = '0' ↔ c = '0' := by
  have hmem : c.toLower = '0' ↔ c ∈ ['0'] :=
    toLower_eq_iff (by decide) (by decide) (by simp) c
  rw [hmem, List.mem_singleton]

theorem toLower_eq_suffix_iff
    (c : Char) :
    c.toLower = 'n' ↔ c ∈ suffixes :=
  toLower_eq_iff (by decide) (by decide) (by simp [suffixes]) c

end Characters

section Scan

/-- Whether a text is made of digits of a base, and of at least one. -/
def allDigits (radix : Nat) (digits : List Char) : Bool :=
  !digits.isEmpty && digits.all (isDigit radix)

/-- Whether a lowered text without a suffix is an integer. -/
def isUnsuffixed (low : List Char) : Bool :=
  allDigits (radixAndDigits low).1 (radixAndDigits low).2

/-- The scan reads the start of a text as a base, or takes all of it for decimal digits. -/
theorem radixAndDigits_cases
    (low : List Char) :
    (∃ base ∈ bases, ∃ digits,
      low = '0' :: base.letter :: digits ∧ radixAndDigits low = (base.radix, digits)) ∨
    ((∀ base ∈ bases, ∀ digits, low ≠ '0' :: base.letter :: digits) ∧
      radixAndDigits low = (10, low)) := by
  unfold radixAndDigits
  split
  · rename_i digits
    exact Or.inl ⟨hexadecimal, by simp [bases], digits, rfl, rfl⟩
  · rename_i digits
    exact Or.inl ⟨octal, by simp [bases], digits, rfl, rfl⟩
  · rename_i digits
    exact Or.inl ⟨binary, by simp [bases], digits, rfl, rfl⟩
  · rename_i hhexadecimal hoctal hbinary
    refine Or.inr ⟨?_, rfl⟩
    simp only [bases, List.forall_mem_cons]
    exact ⟨hhexadecimal, hoctal, hbinary, by simp⟩

theorem allDigits_map_toLower_iff
    {radix : Nat}
    {cs : List Char}
    (hdigit : ∀ c, isDigit radix c.toLower = true ↔ c ∈ cs)
    (w : List Char) :
    allDigits radix (w.map Char.toLower) = true ↔ w ∈ (someOf cs).matches' := by
  simp [allDigits, mem_someOf_iff, hdigit]

/-- A text is lowered to one that names a base just when it names the base, in either case. -/
theorem map_toLower_eq_opening_iff
    {base : Base}
    (hbase : base ∈ bases)
    {w digits : List Char} :
    w.map Char.toLower = '0' :: base.letter :: digits ↔
      ∃ l ∈ base.letters, ∃ rest, rest.map Char.toLower = digits ∧ w = '0' :: l :: rest := by
  have hletter := base.toLower_eq_letter_iff hbase
  constructor
  · intro hw
    obtain ⟨zero, w, rfl, hzero, hw⟩ := List.map_eq_cons_iff.mp hw
    obtain ⟨l, rest, rfl, hl, hrest⟩ := List.map_eq_cons_iff.mp hw
    obtain rfl := (toLower_eq_zero_iff zero).mp hzero
    exact ⟨l, (hletter l).mp hl, rest, hrest, rfl⟩
  · rintro ⟨l, hl, rest, rfl, rfl⟩
    rw [List.map_cons, List.map_cons, (hletter l).mpr hl]
    rfl

/-- The letters of two bases are apart. -/
theorem digits_eq_of_mem_letters :
    ∀ base ∈ bases, ∀ other ∈ bases, ∀ l ∈ base.letters, l ∈ other.letters →
      base.digits = other.digits := by
  simp [bases, hexadecimal, octal, binary, Base.letters]

/-- Without a suffix the scan accepts the words of the expression. -/
theorem mem_unsuffixed_iff
    (w : List Char) :
    isUnsuffixed (w.map Char.toLower) = true ↔ w ∈ unsuffixed.matches' := by
  rw [isUnsuffixed, mem_unsuffixed_iff_numeral]
  rcases radixAndDigits_cases (w.map Char.toLower) with
    ⟨base, hbase, digits, hlow, hscan⟩ | ⟨hnone, hscan⟩
  · obtain ⟨l, hl, rest, rfl, rfl⟩ := (map_toLower_eq_opening_iff hbase).mp hlow
    rw [hscan, allDigits_map_toLower_iff (base.isDigit_toLower_iff hbase)]
    constructor
    · intro hrest
      exact Or.inl ⟨base, hbase, Base.mem_numeral_iff.mpr ⟨l, hl, rest, hrest, rfl⟩⟩
    · rintro (⟨other, hother, hw⟩ | hw)
      · obtain ⟨l', hl', rest', hrest, heq⟩ := Base.mem_numeral_iff.mp hw
        simp only [List.cons.injEq, true_and] at heq
        obtain ⟨rfl, rfl⟩ := heq
        rwa [digits_eq_of_mem_letters base hbase other hother l hl hl']
      · -- a letter that names a base is no decimal digit
        have hdecimal := (mem_someOf_iff.mp hw).2 l (by simp)
        have hletters : ∀ base ∈ bases, ∀ l ∈ base.letters, l ∉ decimalDigits := by
          simp [bases, hexadecimal, octal, binary, Base.letters, decimalDigits]
        exact absurd hdecimal (hletters base hbase l hl)
  · rw [hscan, allDigits_map_toLower_iff isDigit_ten_toLower_iff]
    constructor
    · exact Or.inr
    · rintro (⟨base, hbase, hw⟩ | hw)
      · obtain ⟨l, hl, digits, _, rfl⟩ := Base.mem_numeral_iff.mp hw
        exact absurd ((map_toLower_eq_opening_iff hbase).mpr ⟨l, hl, digits, rfl, rfl⟩)
          (hnone base hbase _)
      · exact hw

/-- No suffix is a character of an integer without one. -/
theorem notMem_of_mem_suffixes
    {w : List Char}
    (hw : w ∈ unsuffixed.matches')
    {c : Char}
    (hc : c ∈ suffixes) :
    c ∉ w := by
  intro hcw
  rcases mem_unsuffixed_iff_numeral.mp hw with ⟨base, hbase, hw⟩ | hw
  · obtain ⟨l, hl, digits, hdigits, rfl⟩ := Base.mem_numeral_iff.mp hw
    have hwritten : c ∈ '0' :: (base.letters ++ base.digits) := by
      simp only [List.mem_cons, List.mem_append] at hcw ⊢
      rcases hcw with rfl | rfl | hcw
      · exact Or.inl rfl
      · exact Or.inr (Or.inl hl)
      · exact Or.inr (Or.inr ((mem_someOf_iff.mp hdigits).2 c hcw))
    have hapart : ∀ base ∈ bases, ∀ c ∈ suffixes, c ∉ '0' :: (base.letters ++ base.digits) := by
      simp [bases, hexadecimal, octal, binary, Base.letters, suffixes]
    exact hapart base hbase c hc hwritten
  · have hapart : ∀ c ∈ suffixes, c ∉ decimalDigits := by simp [suffixes, decimalDigits]
    exact hapart c hc ((mem_someOf_iff.mp hw).2 c hcw)

theorem withoutSuffix_concat
    (v : List Char)
    (c : Char) :
    withoutSuffix (v ++ [c]) = if c = 'n' then v else v ++ [c] := by
  simp [withoutSuffix]

/-- With its suffix cut off and lowered, a text is scanned just as the expression reads it. -/
theorem isUnsuffixed_withoutSuffix_iff
    (w : List Char) :
    isUnsuffixed (withoutSuffix (w.map Char.toLower)) = true ↔ w ∈ grammar.matches' := by
  rw [mem_grammar_iff]
  rcases List.eq_nil_or_concat w with rfl | ⟨v, c, rfl⟩
  · have hnil : withoutSuffix [] = [] := rfl
    rw [List.map_nil, hnil, ← List.map_nil, mem_unsuffixed_iff]
    simp
  · rw [List.concat_eq_append, List.map_append, List.map_cons, List.map_nil, withoutSuffix_concat]
    by_cases hc : c ∈ suffixes
    · rw [if_pos ((toLower_eq_suffix_iff c).mpr hc), mem_unsuffixed_iff]
      constructor
      · intro hv
        exact Or.inr ⟨v, hv, c, hc, rfl⟩
      · rintro (hw | ⟨v', hv', c', _, heq⟩)
        · exact absurd (by simp) (notMem_of_mem_suffixes hw hc)
        · obtain ⟨rfl, _⟩ := List.append_inj' heq rfl
          exact hv'
    · have hlower : ¬ c.toLower = 'n' := fun h => hc ((toLower_eq_suffix_iff c).mp h)
      have hwhole : v.map Char.toLower ++ [c.toLower] = (v ++ [c]).map Char.toLower := by simp
      rw [if_neg hlower, hwhole, mem_unsuffixed_iff]
      constructor
      · exact Or.inl
      · rintro (hw | ⟨v', _, c', hc', heq⟩)
        · exact hw
        · obtain ⟨_, heq⟩ := List.append_inj' heq rfl
          obtain rfl : c = c' := by simpa using heq
          exact absurd hc' hc

/-- The text of a number is an integer when it is a word of the grammar without its underscores. -/
theorem isIntegerText_iff
    (text : String) :
    isIntegerText text = true ↔ text.toList.filter (· != '_') ∈ grammar.matches' := by
  rw [← isUnsuffixed_withoutSuffix_iff]
  rfl

end Scan
end IntegerLiteral

namespace Tree

/-- A sign before a node: a unary expression with a sign for its operator and the node for its
argument. -/
structure SignBefore (n argument : Node) : Prop where
  kind : n.kind = "unary_expression"
  sign : n.childText? "operator" = some "-" ∨ n.childText? "operator" = some "+"
  argument : n.child? "argument" = some argument

/-- A number whose text is an integer, underscores aside. -/
structure IsIntegerNumber (n : Node) : Prop where
  kind : n.kind = "number"
  text : n.text.toList.filter (· != '_') ∈ IntegerLiteral.grammar.matches'

/-- Signs lead from a node to an integer: the node is the integer itself, or a sign before a node
from which signs lead to it. -/
theorem exists_integer_behind_signs_iff
    {n : Node} :
    (∃ last, Relation.ReflTransGen SignBefore n last ∧ last.IsIntegerNumber) ↔
      n.IsIntegerNumber ∨
        ∃ argument, n.SignBefore argument ∧
          ∃ last, Relation.ReflTransGen SignBefore argument last ∧ last.IsIntegerNumber := by
  constructor
  · rintro ⟨last, hsigns, hlast⟩
    rcases hsigns.cases_head with rfl | ⟨argument, hsign, hrest⟩
    · exact Or.inl hlast
    · exact Or.inr ⟨argument, hsign, last, hrest, hlast⟩
  · rintro (hn | ⟨argument, hsign, last, hrest, hlast⟩)
    · exact ⟨n, .refl, hn⟩
    · exact ⟨last, .head hsign hrest, hlast⟩

theorem hasSign_iff
    {n : Node} :
    n.hasSign = true ↔
      n.childText? "operator" = some "-" ∨ n.childText? "operator" = some "+" := by
  simp [hasSign]

/-- An integer literal is an integer behind any number of signs. -/
theorem isIntegerLiteral_iff
    (n : Node) :
    n.isIntegerLiteral = true ↔
      ∃ last, Relation.ReflTransGen SignBefore n last ∧ last.IsIntegerNumber := by
  induction n using isIntegerLiteral.induct with
  | case1 n hnumber =>
      rw [isIntegerLiteral_eq, if_pos hnumber, IntegerLiteral.isIntegerText_iff,
        exists_integer_behind_signs_iff]
      constructor
      · intro htext
        exact Or.inl ⟨hnumber, htext⟩
      · rintro (hn | ⟨argument, hsign, _⟩)
        · exact hn.text
        · exact absurd (hnumber.symm.trans hsign.kind) (by decide)
  | case2 n hnumber hunary ih =>
      rw [isIntegerLiteral_eq, if_neg hnumber, if_pos hunary, exists_integer_behind_signs_iff,
        Bool.and_eq_true, hasSign_iff, Option.any_eq_true]
      constructor
      · rintro ⟨hsign, argument, hargument, hinteger⟩
        exact Or.inr ⟨argument, ⟨hunary, hsign, hargument⟩, (ih argument hargument).mp hinteger⟩
      · rintro (hn | ⟨argument, hsign, hrest⟩)
        · exact absurd hn.kind hnumber
        · exact ⟨hsign.sign, argument, hsign.argument, (ih argument hsign.argument).mpr hrest⟩
  | case3 n hnumber hunary =>
      rw [isIntegerLiteral_eq, if_neg hnumber, if_neg hunary, exists_integer_behind_signs_iff]
      constructor
      · intro hfalse
        cases hfalse
      · rintro (hn | ⟨argument, hsign, _⟩)
        · exact absurd hn.kind hnumber
        · exact absurd hsign.kind hunary

end Tree

namespace Handle

/-- The initializer of a declaration is an integer just when it is a number behind any number of
signs whose text, underscores aside, is a word of the grammar of integers. -/
theorem isInteger_iff_signed_integer
    (h : Handle) :
    h.isInteger = true ↔
      ∃ value last,
        h.value.node = some value ∧
          Relation.ReflTransGen Tree.SignBefore value last ∧
          last.kind = "number" ∧
          last.text.toList.filter (· != '_') ∈ IntegerLiteral.grammar.matches' := by
  rw [isInteger, Option.any_eq_true]
  constructor
  · rintro ⟨value, hvalue, hinteger⟩
    obtain ⟨last, hsigns, hkind, htext⟩ := (Tree.isIntegerLiteral_iff value).mp hinteger
    exact ⟨value, last, hvalue, hsigns, hkind, htext⟩
  · rintro ⟨value, last, hvalue, hsigns, hkind, htext⟩
    exact ⟨value, hvalue, (Tree.isIntegerLiteral_iff value).mpr ⟨last, hsigns, hkind, htext⟩⟩

end Handle
end SnippetRubric
