/-!
# Scanning rubric documents

A scanner looks at the characters that remain and answers with what it read and what is left, or
with nothing when the characters do not follow the rules.  The module holds the scanners for what
stands between values: blanks, line ends, comments.
-/

namespace SnippetRubric
namespace Document
namespace Toml

/-- A scanner of `α`. -/
abbrev Scan (α : Type) := List Char → Option (α × List Char)

/-- A space or a tab. -/
def isBlankChar (c : Char) : Bool :=
  c == ' ' || c == '\t'

/-- What follows the blanks at the front. -/
def skipBlanks (cs : List Char) : List Char :=
  cs.dropWhile isBlankChar

/-- A character that may stand in a comment: anything but control characters, the tab excepted. -/
def isCommentChar (c : Char) : Bool :=
  c == '\t' || (0x20 ≤ c.toNat && c.toNat != 0x7F)

/-- What follows a comment's text, from the end of its line on. -/
def skipComment : List Char → Option (List Char)
  | [] => some []
  | '\n' :: rest => some ('\n' :: rest)
  | '\r' :: '\n' :: rest => some ('\n' :: rest)
  | c :: rest => if isCommentChar c then skipComment rest else none

/-- What follows the end of a line: blanks, a comment and a line break or the end of the text. -/
def endLine (cs : List Char) : Option (List Char) :=
  let atEnd : List Char → Option (List Char)
    | [] => some []
    | '\n' :: rest => some rest
    | '\r' :: '\n' :: rest => some rest
    | _ => none
  match skipBlanks cs with
  | '#' :: rest => (skipComment rest).bind atEnd
  | rest => atEnd rest

/-- What follows any number of blanks, line breaks and comments. -/
def skipTrivia (inComment : Bool) : List Char → Option (List Char)
  | [] => some []
  | '\n' :: rest => skipTrivia false rest
  | '\r' :: '\n' :: rest => skipTrivia false rest
  | c :: rest =>
      if inComment then
        if isCommentChar c then skipTrivia true rest else none
      else if isBlankChar c then skipTrivia false rest
      else if c == '#' then skipTrivia true rest
      else some (c :: rest)

/-- The value of a hexadecimal digit. -/
def hexDigit? (c : Char) : Option Nat :=
  if '0' ≤ c ∧ c ≤ '9' then some (c.toNat - '0'.toNat)
  else if 'a' ≤ c ∧ c ≤ 'f' then some (c.toNat - 'a'.toNat + 10)
  else if 'A' ≤ c ∧ c ≤ 'F' then some (c.toNat - 'A'.toNat + 10)
  else none

/-- The number that digits stand for in base `radix`; none when one is not a digit there. -/
def digitsValue? (radix : Nat) (digits : List Char) : Option Nat :=
  digits.foldl
    (fun total c => total.bind fun t =>
      (hexDigit? c).bind fun d => if d < radix then some (t * radix + d) else none)
    (some 0)

/-- The character with a code point; none for surrogates and beyond the last plane. -/
def charOfCode? (code : Nat) : Option Char :=
  if code < 0xD800 || (0xDFFF < code && code < 0x110000) then some (Char.ofNat code) else none

end Toml
end Document
end SnippetRubric
