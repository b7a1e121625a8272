/-!
# JSON output

The part of JSON that reports need, written with two spaces of indentation for every level.
-/

namespace SnippetRubric

/-- A JSON value made of texts. -/
inductive Json where
  | text (s : String)
  | list (elements : List Json)
  | object (fields : List (String × Json))

namespace Json

/-- The escape `\u` with four hexadecimal digits. -/
def codeEscape (c : Char) : String :=
  let digits := Nat.toDigits 16 c.toNat
  "\\u" ++ String.ofList (List.replicate (4 - digits.length) '0' ++ digits)

/-- How one character is written inside a JSON string. -/
def escapedChar (c : Char) : String :=
  if c = '"' then "\\\""
  else if c = '\\' then "\\\\"
  else if c = '\n' then "\\n"
  else if c = '\r' then "\\r"
  else if c = '\t' then "\\t"
  else if c.toNat = 8 then "\\b"
  else if c.toNat = 12 then "\\f"
  else if c.toNat < 0x20 then codeEscape c
  else String.singleton c

/-- A JSON string. -/
def quoted (s : String) : String :=
  "\"" ++ String.join (s.toList.map escapedChar) ++ "\""

/-- The blanks at the start of a line at a level. -/
def indent (level : Nat) : String :=
  String.ofList (List.replicate (2 * level) ' ')

/-- Lines between an opening and a closing sign; nothing between them when there are no lines. -/
def bracketed (opening closing : String) (level : Nat) (lines : List String) : String :=
  if lines.isEmpty then
    opening ++ closing
  else
    opening ++ "\n" ++ ",\n".intercalate (lines.map (indent (level + 1) ++ ·)) ++ "\n" ++
      indent level ++ closing

mutual

/-- The text of a value at a level. -/
def pretty (level : Nat) : Json → String
  | text s => quoted s
  | list elements => bracketed "[" "]" level (prettyElements (level + 1) elements)
  | object fields => bracketed "\x7b" "\x7d" level (prettyFields (level + 1) fields)

/-- The texts of the elements of a list. -/
def prettyElements (level : Nat) : List Json → List String
  | [] => []
  | v :: rest => pretty level v :: prettyElements level rest

/-- The texts of the fields of an object. -/
def prettyFields (level : Nat) : List (String × Json) → List String
  | [] => []
  | (name, v) :: rest => (quoted name ++ ": " ++ pretty level v) :: prettyFields level rest

end

end Json
end SnippetRubric
