import SnippetRubric.Tree.Node

/-!
# Tree banks

A *tree bank* is a text that records what a parser made of some texts.  A line that starts with the
word `text` and a tab gives a text, and the lines after it list the nodes of its tree in preorder:
depth, kind, field, flags (one for a named node, two for a damaged one), start and end, with tabs
between them.  Tabs, line breaks and backslashes inside a text are escaped with a backslash.
-/

namespace SnippetRubric
namespace TreeBank

/-- A text without its escapes. -/
def unescape : List Char → List Char
  | '\\' :: 'n' :: rest => '\n' :: unescape rest
  | '\\' :: 't' :: rest => '\t' :: unescape rest
  | '\\' :: 'r' :: rest => '\r' :: unescape rest
  | '\\' :: c :: rest => c :: unescape rest
  | c :: rest => c :: unescape rest
  | [] => []

/-- The text of an escaped field. -/
def field (s : String) : String :=
  String.ofList (unescape s.toList)

/-- A line of a record: the text it is about, or a node. -/
inductive Line where
  | about (text : String)
  | node (depth : Nat) (mark : Mark)

/-- Reads a line; none when it follows neither form. -/
def Line.of? (line : String) : Option Line :=
  match line.splitOn "\t" with
  | ["text", text] => some (.about (field text))
  | [depth, kind, name, flags, start, stop] => do
      let depth ← depth.toNat?
      let flags ← flags.toNat?
      let start ← start.toNat?
      let stop ← stop.toNat?
      let name := field name
      some (.node depth
        { kind := field kind
          field := if name.isEmpty then none else some name
          named := flags % 2 == 1
          damaged := flags / 2 % 2 == 1
          span := ⟨start, stop⟩ })
  | _ => none

/-- The records of a bank, read from its last line: the nodes that still wait for their text, and
the finished records. -/
def collect (line : Line) (state : List (Nat × Mark) × List (String × ParseTree)) :
    List (Nat × Mark) × List (String × ParseTree) :=
  match line with
  | .node depth mark => ((depth, mark) :: state.1, state.2)
  | .about text => ([], (text, (Tree.ofListing state.1).getD default) :: state.2)

/-- The records of a bank; lines of neither form are skipped. -/
def records (bank : String) : List (String × ParseTree) :=
  (((bank.splitOn "\n").filterMap Line.of?).foldr collect ([], [])).2

/-- The program without statements, for a text that a bank does not know. -/
def unknown (text : String) : ParseTree :=
  .node
    { kind := "program", field := none, named := true, damaged := false
      span := ⟨0, text.utf8ByteSize⟩ } []

/-- The parser that answers from the records of a bank. -/
def parser (records : List (String × ParseTree)) : Parser := fun text =>
  (records.lookup text).getD (unknown text)

end TreeBank
end SnippetRubric
