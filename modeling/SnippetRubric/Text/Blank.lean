/-!
# Blank text

The characters that separate words are those with the Unicode property `White_Space`.  A text
made of such characters alone is blank: it has nothing to read.

The table lists the property completely.  U+200B (zero width space) and U+FEFF (byte order mark)
do not have it.
-/

namespace SnippetRubric
namespace Text

/-- The code point ranges of the property `White_Space`, ends included. -/
def whiteSpaceRanges : List (Nat × Nat) :=
  [(0x09, 0x0D), (0x20, 0x20), (0x85, 0x85), (0xA0, 0xA0), (0x1680, 0x1680), (0x2000, 0x200A),
   (0x2028, 0x2029), (0x202F, 0x202F), (0x205F, 0x205F), (0x3000, 0x3000)]

/-- A character separates words when a range of the table holds it. -/
def isWhiteSpace (c : Char) : Bool :=
  whiteSpaceRanges.any fun range => range.1 ≤ c.toNat && c.toNat ≤ range.2

/-- A text is blank when it holds nothing but white space; the empty text is blank. -/
def isBlank (text : String) : Bool :=
  text.toList.all isWhiteSpace

end Text
end SnippetRubric
