import SnippetRubric.Document.Toml.Assembly
import SnippetRubric.Document.Toml.Numbers
import SnippetRubric.Document.Toml.Strings

/-!
# Reading rubric documents

`Toml.read?` reads a document of the TOML format, version 1.1, as a table value.  A text that
breaks a rule of the format has no value.

The recursive scanners carry a bound on their steps, which the length of the text supplies.
-/

namespace SnippetRubric
namespace Document
namespace Toml

/-- A character of a key without quotes. -/
def isBareKeyChar (c : Char) : Bool :=
  c.isAlphanum || c == '_' || c == '-'

/-- One part of a key. -/
def keyPart? : Scan String
  | '"' :: rest => (basic rest).map fun (text, rest) => (String.ofList text, rest)
  | '\'' :: rest => (literal rest).map fun (text, rest) => (String.ofList text, rest)
  | cs =>
      let bare := cs.takeWhile isBareKeyChar
      if bare.isEmpty then none else some (String.ofList bare, cs.drop bare.length)

/-- Lists and tables may hold each other up to this depth, and a key may have as many parts. -/
def maxNesting : Nat := 80

/-- A key of at most `parts` parts with dots between them, the last one apart. -/
def keyWithin? : Nat → Scan (List String × String)
  | 0, _ => none
  | parts + 1, cs => do
      let (part, rest) ← keyPart? cs
      match skipBlanks rest with
      | '.' :: more =>
          let ((path, last), rest) ← keyWithin? parts (skipBlanks more)
          some ((part :: path, last), rest)
      | rest => some (([], part), rest)

/-- A key. -/
def key? : Scan (List String × String) :=
  keyWithin? maxNesting

mutual

/-- A value; `levels` more collections may open. -/
def value? : Nat → Nat → Scan Value
  | 0, _, _ => none
  | steps + 1, levels, cs =>
      match cs, levels with
      | '[' :: _, 0 => none
      | '\x7b' :: _, 0 => none
      | '[' :: rest, levels + 1 =>
          (elements? steps levels rest).map fun (vs, rest) => (.list vs, rest)
      | '\x7b' :: rest, levels + 1 =>
          (pairs? steps levels [] rest).map fun (entries, rest) =>
            (.table (finishEntries entries), rest)
      | '"' :: _, _ => (string? cs).map fun (text, rest) => (.text text, rest)
      | '\'' :: _, _ => (string? cs).map fun (text, rest) => (.text text, rest)
      | _, _ => scalar? cs

/-- The elements of a list, from its bracket or a comma on. -/
def elements? : Nat → Nat → Scan (List Value)
  | 0, _, _ => none
  | steps + 1, levels, cs => do
      match ← skipTrivia false cs with
      | ']' :: rest => some ([], rest)
      | more =>
          let (v, rest) ← value? steps levels more
          match ← skipTrivia false rest with
          | ',' :: rest =>
              let (vs, rest) ← elements? steps levels rest
              some (v :: vs, rest)
          | ']' :: rest => some ([v], rest)
          | _ => none

/-- The entries of a table in braces, from its brace or a comma on; lines may break anywhere between
keys, signs and values. -/
def pairs? : Nat → Nat → Entries → Scan Entries
  | 0, _, _, _ => none
  | steps + 1, levels, entries, cs => do
      match ← skipTrivia false cs with
      | '\x7d' :: rest => some (entries, rest)
      | more =>
          let ((path, last), rest) ← key? more
          match ← skipTrivia false rest with
          | '=' :: rest =>
              let (v, rest) ← value? steps levels (← skipTrivia false rest)
              let entries ← assign path last v .header entries
              match ← skipTrivia false rest with
              | ',' :: rest => pairs? steps levels entries rest
              | '\x7d' :: rest => some (entries, rest)
              | _ => none
          | _ => none

end

/-- What a line of a document says. -/
inductive Line where
  | nothing
  | assignment (path : List String) (key : String) (v : Value)
  | header (path : List String) (key : String)
  | nextHeader (path : List String) (key : String)

/-- What a line says, up to its end. -/
def lineContent? (steps : Nat) (cs : List Char) : Option (Line × List Char) :=
  match skipBlanks cs with
  | [] => some (.nothing, [])
  | '#' :: rest => some (.nothing, '#' :: rest)
  | '\n' :: rest => some (.nothing, '\n' :: rest)
  | '\r' :: rest => some (.nothing, '\r' :: rest)
  | '[' :: '[' :: rest => do
      let ((path, key), rest) ← key? (skipBlanks rest)
      match rest with
      | ']' :: ']' :: rest => some (.nextHeader path key, rest)
      | _ => none
  | '[' :: rest => do
      let ((path, key), rest) ← key? (skipBlanks rest)
      match rest with
      | ']' :: rest => some (.header path key, rest)
      | _ => none
  | rest => do
      let ((path, key), rest) ← key? rest
      match rest with
      | '=' :: rest =>
          let (v, rest) ← value? steps maxNesting (skipBlanks rest)
          some (.assignment path key v, rest)
      | _ => none

/-- A document under assembly: all entries, and the path of the table that is open. -/
structure Draft where
  entries : Entries
  current : List String

/-- The draft after one more line. -/
def Draft.add (draft : Draft) : Line → Option Draft
  | .nothing => some draft
  | .assignment path key v =>
      (descend .onTheWay (assign path key v) draft.current .header draft.entries).map fun entries =>
        { draft with entries }
  | .header path key =>
      (openTable path key draft.entries).map fun entries => ⟨entries, path ++ [key]⟩
  | .nextHeader path key =>
      (openNext path key draft.entries).map fun entries => ⟨entries, path ++ [key]⟩

/-- Adds the lines of a text to a draft. -/
def lines? : Nat → Draft → List Char → Option Draft
  | 0, _, _ => none
  | _, draft, [] => some draft
  | steps + 1, draft, cs => do
      let (line, rest) ← lineContent? steps cs
      let draft ← draft.add line
      let rest ← endLine rest
      lines? steps draft rest

/-- The text without a byte order mark in front. -/
def withoutMark : List Char → List Char
  | c :: cs => if c.toNat = 0xFEFF then cs else c :: cs
  | [] => []

/-- The table that a document describes; none when the text breaks a rule of the format. -/
def read? (text : String) : Option Value :=
  let cs := withoutMark text.toList
  (lines? (2 * cs.length + 2) ⟨[], []⟩ cs).map fun draft => .table (finishEntries draft.entries)

end Toml
end Document
end SnippetRubric
