/-!
# Spans, points and positions

A *span* is a range of bytes of a text in its UTF-8 form, the end excluded.  A *point* names a byte
the way a parser does: the number of lines before its own, and of bytes before it in its line.  A
*position* names it the way an editor shows it, with both counted from one.
-/

namespace SnippetRubric

/-- A range of bytes, from `start` up to and without `stop`. -/
structure Span where
  start : Nat
  stop : Nat
deriving DecidableEq, Repr, Inhabited

/-- A row and a byte column, counted from zero. -/
structure Point where
  row : Nat
  column : Nat
deriving DecidableEq, Repr, Inhabited

/-- A line and a byte column, counted from one. -/
structure Position where
  line : Nat
  column : Nat
deriving DecidableEq, Repr, Inhabited

namespace Span

/-- The span `inner` lies in the span `outer`. -/
def Within (inner outer : Span) : Prop :=
  outer.start ≤ inner.start ∧ inner.stop ≤ outer.stop

/-- The span `first` ends no later than the span `second` starts. -/
def Before (first second : Span) : Prop :=
  first.stop ≤ second.start

/-- The bytes of `text` in a span; none when they do not form whole characters. -/
def slice? (text : String) (span : Span) : Option String :=
  String.fromUTF8? (text.toUTF8.extract span.start span.stop)

/-- The part of `text` in a span, and the empty text where the span cuts a character. -/
def slice (text : String) (span : Span) : String :=
  (slice? text span).getD ""

/-- The span of the middle part of a text cuts out that part. -/
theorem slice_append
    (before middle after : String) :
    slice (before ++ (middle ++ after))
        ⟨before.utf8ByteSize, before.utf8ByteSize + middle.utf8ByteSize⟩ =
      middle := by
  have hbytes :
      (before ++ (middle ++ after)).toUTF8.extract before.utf8ByteSize
          (before.utf8ByteSize + middle.utf8ByteSize) =
        middle.toByteArray := by
    have hskip := ByteArray.extract_append_size_add (a := before.toByteArray)
      (b := middle.toByteArray ++ after.toByteArray) (i := 0) (j := middle.toByteArray.size)
    rw [Nat.add_zero, ByteArray.extract_append_eq_left rfl] at hskip
    rw [String.toUTF8_eq_toByteArray, String.toByteArray_append, String.toByteArray_append]
    exact hskip
  rw [slice, slice?, hbytes, String.fromUTF8?, dif_pos middle.isValidUTF8]
  rfl

end Span

/-- The byte that ends a line. -/
def newline : UInt8 := 10

namespace Point

/-- The point of the byte `offset`: a row for every newline byte before it, and a column for every
byte after the last of them. -/
def ofOffset (bytes : List UInt8) (offset : Nat) : Point :=
  let before := bytes.take offset
  { row := before.count newline
    column := (before.reverse.takeWhile (· != newline)).length }

/-- The point of a byte of a text. -/
def ofText (text : String) (offset : Nat) : Point :=
  ofOffset text.toUTF8.data.toList offset

/-- The position that an editor shows for a point. -/
def position (p : Point) : Position :=
  { line := p.row + 1, column := p.column + 1 }

end Point
end SnippetRubric
