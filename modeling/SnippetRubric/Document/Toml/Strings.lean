import SnippetRubric.Document.Toml.Scan

/-!
# Strings

Basic strings stand in double quotes and know escapes, literal strings stand in single quotes and
know none.  Three quotes open a string of several lines: a line break right after them does not
count, other line breaks are kept as they are written, and up to two quotes may stand before the
closing ones.
-/

namespace SnippetRubric
namespace Document
namespace Toml

/-- What a one-letter escape stands for. -/
def escaped? : Char → Option Char
  | 'b' => some (Char.ofNat 8)
  | 't' => some '\t'
  | 'n' => some '\n'
  | 'f' => some (Char.ofNat 12)
  | 'r' => some '\r'
  | 'e' => some (Char.ofNat 27)
  | '"' => some '"'
  | '\\' => some '\\'
  | _ => none

/-- The character that hexadecimal digits name. -/
def coded? (digits : List Char) : Option Char :=
  (digitsValue? 16 digits).bind charOfCode?

/-- A character in front of what was read, if both are there. -/
def push (c : Option Char) (read : Option (List Char × List Char)) :
    Option (List Char × List Char) :=
  c.bind fun c => read.map fun (text, rest) => (c :: text, rest)

/-- A character that stands for itself in a string. -/
def plain? (c : Char) : Option Char :=
  if isCommentChar c then some c else none

/-- The text of a basic string after its opening quote. -/
def basic : Scan (List Char)
  | [] => none
  | '"' :: rest => some ([], rest)
  | '\\' :: 'x' :: a :: b :: rest => push (coded? [a, b]) (basic rest)
  | '\\' :: 'u' :: a :: b :: c :: d :: rest => push (coded? [a, b, c, d]) (basic rest)
  | '\\' :: 'U' :: a :: b :: c :: d :: e :: f :: g :: h :: rest =>
      push (coded? [a, b, c, d, e, f, g, h]) (basic rest)
  | '\\' :: c :: rest => push (escaped? c) (basic rest)
  | c :: rest => if c == '\\' then none else push (plain? c) (basic rest)

/-- The text of a literal string after its opening quote. -/
def literal : Scan (List Char)
  | [] => none
  | '\'' :: rest => some ([], rest)
  | c :: rest => push (plain? c) (literal rest)

/-- The quotes that belong to the text when three closing quotes are followed by more. -/
def closing (quote : Char) (rest : List Char) : List Char × List Char :=
  let extra := (rest.take 2).takeWhile (· == quote)
  (extra, rest.drop extra.length)

/-- What the text of a string of several lines is at: `plain` text, `beforeBreak` after a backslash
that must end its line, or `afterBreak` where blanks and line breaks do not count. -/
inductive LineMode where
  | plain
  | beforeBreak
  | afterBreak
deriving DecidableEq

/-- The text of a basic string of several lines after its opening quotes. -/
def basicLines : LineMode → Scan (List Char)
  | _, [] => none
  | mode, '\n' :: rest =>
      if mode = .plain then push (some '\n') (basicLines .plain rest)
      else basicLines .afterBreak rest
  | mode, '\r' :: '\n' :: rest =>
      if mode = .plain then push (some '\r') (push (some '\n') (basicLines .plain rest))
      else basicLines .afterBreak rest
  | .beforeBreak, c :: rest => if isBlankChar c then basicLines .beforeBreak rest else none
  | _, '"' :: '"' :: '"' :: rest => some (closing '"' rest)
  | _, '\\' :: '\n' :: rest => basicLines .afterBreak rest
  | _, '\\' :: '\r' :: '\n' :: rest => basicLines .afterBreak rest
  | _, '\\' :: 'x' :: a :: b :: rest => push (coded? [a, b]) (basicLines .plain rest)
  | _, '\\' :: 'u' :: a :: b :: c :: d :: rest =>
      push (coded? [a, b, c, d]) (basicLines .plain rest)
  | _, '\\' :: 'U' :: a :: b :: c :: d :: e :: f :: g :: h :: rest =>
      push (coded? [a, b, c, d, e, f, g, h]) (basicLines .plain rest)
  | _, '\\' :: c :: rest =>
      if isBlankChar c then basicLines .beforeBreak rest
      else push (escaped? c) (basicLines .plain rest)
  | mode, c :: rest =>
      if c == '\\' then none
      else if mode = .afterBreak && isBlankChar c then basicLines .afterBreak rest
      else push (plain? c) (basicLines .plain rest)

/-- The text of a literal string of several lines after its opening quotes. -/
def literalLines : Scan (List Char)
  | [] => none
  | '\n' :: rest => push (some '\n') (literalLines rest)
  | '\r' :: '\n' :: rest => push (some '\r') (push (some '\n') (literalLines rest))
  | '\'' :: '\'' :: '\'' :: rest => some (closing '\'' rest)
  | c :: rest => push (plain? c) (literalLines rest)

/-- What follows a line break at the front, if there is one. -/
def skipBreak : List Char → List Char
  | '\n' :: rest => rest
  | '\r' :: '\n' :: rest => rest
  | rest => rest

/-- A string in any of the four forms. -/
def string? : Scan String
  | '"' :: '"' :: '"' :: rest => (basicLines .plain (skipBreak rest)).map ofChars
  | '"' :: rest => (basic rest).map ofChars
  | '\'' :: '\'' :: '\'' :: rest => (literalLines (skipBreak rest)).map ofChars
  | '\'' :: rest => (literal rest).map ofChars
  | _ => none
where
  /-- The text of the characters. -/
  ofChars (read : List Char × List Char) : String × List Char :=
    (String.ofList read.1, read.2)

end Toml
end Document
end SnippetRubric
