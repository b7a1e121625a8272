import SnippetRubric.Tree.Node

/-!
# Integer literals

An integer literal is a number in base ten, sixteen, eight or two, with underscores anywhere and
at most one suffix `n`, behind any number of signs.  A number with a fraction or an exponent is
none.
-/

namespace SnippetRubric

namespace IntegerLiteral

/-- Whether a character is a digit in base `radix`; letters count from ten, in either case. -/
def isDigit (radix : Nat) (c : Char) : Bool :=
  if '0' ≤ c ∧ c ≤ '9' then c.toNat - '0'.toNat < radix
  else if 'a' ≤ c ∧ c ≤ 'z' then c.toNat - 'a'.toNat + 10 < radix
  else if 'A' ≤ c ∧ c ≤ 'Z' then c.toNat - 'A'.toNat + 10 < radix
  else false

/-- The text without its last `n`, if it has one. -/
def withoutSuffix (text : List Char) : List Char :=
  if text.getLast? = some 'n' then text.dropLast else text

/-- The base that the text starts with, and the digits after it. -/
def radixAndDigits : List Char → Nat × List Char
  | '0' :: 'x' :: digits => (16, digits)
  | '0' :: 'o' :: digits => (8, digits)
  | '0' :: 'b' :: digits => (2, digits)
  | digits => (10, digits)

/-- Whether the text of a number is an integer. -/
def isIntegerText (text : String) : Bool :=
  let plain := (text.toList.filter (· != '_')).map Char.toLower
  let (radix, digits) := radixAndDigits (withoutSuffix plain)
  !digits.isEmpty && digits.all (isDigit radix)

end IntegerLiteral

namespace Tree

/-- Whether the operator of a unary expression is a sign. -/
def hasSign (n : Node) : Bool :=
  n.childText? "operator" == some "-" || n.childText? "operator" == some "+"

/-- Whether a node is an integer literal. -/
def isIntegerLiteral (n : Node) : Bool :=
  if n.kind = "number" then
    IntegerLiteral.isIntegerText n.text
  else if n.kind = "unary_expression" then
    n.hasSign &&
      match _h : n.child? "argument" with
      | some argument => isIntegerLiteral argument
      | none => false
  else
    false
termination_by sizeOf n
decreasing_by exact sizeOf_lt_of_child? _h

/-- An integer literal is a number with an integer text, or a sign before an integer literal. -/
theorem isIntegerLiteral_eq (n : Node) :
    n.isIntegerLiteral =
      if n.kind = "number" then
        IntegerLiteral.isIntegerText n.text
      else if n.kind = "unary_expression" then
        n.hasSign && (n.child? "argument").any isIntegerLiteral
      else
        false := by
  have hargument :
      (match _h : n.child? "argument" with
        | some argument => isIntegerLiteral argument
        | none => false) = (n.child? "argument").any isIntegerLiteral := by
    split <;> rename_i h <;> simp [h]
  rw [isIntegerLiteral, hargument]

end Tree
end SnippetRubric
