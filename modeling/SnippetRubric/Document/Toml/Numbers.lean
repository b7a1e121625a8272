import SnippetRubric.Document.Toml.Scan
import SnippetRubric.Document.Value

/-!
# Numbers, dates and times

What is neither a string nor a collection is a run of letters, digits and a few signs, and the
whole run decides what it is: a truth value, a number, a date, a time.
-/

namespace SnippetRubric
namespace Document
namespace Toml

/-- A decimal digit. -/
def isDigit (c : Char) : Bool :=
  '0' ≤ c && c ≤ '9'

/-- Digits, of which any two may have one underscore between them, without the underscores. -/
def digitRun (accept : Char → Bool) : List Char → Option (List Char)
  | [] => none
  | [c] => if accept c then some [c] else none
  | c :: '_' :: rest => if accept c then (digitRun accept rest).map (c :: ·) else none
  | c :: rest => if accept c then (digitRun accept rest).map (c :: ·) else none

/-- Whether a text has a sign in front, and what follows it. -/
def signed : List Char → Option Bool × List Char
  | '+' :: rest => (some false, rest)
  | '-' :: rest => (some true, rest)
  | rest => (none, rest)

/-- The digits of a decimal integer without a sign: no zero in front of other digits. -/
def decimalDigits (cs : List Char) : Option (List Char) :=
  match cs with
  | ['0'] => some ['0']
  | '0' :: _ => none
  | _ => digitRun isDigit cs

/-- The number of hexadecimal, octal or binary digits. -/
def radixValue (radix : Nat) (digits : List Char) : Option Nat :=
  (digitRun (fun c => (hexDigit? c).any (· < radix)) digits).bind (digitsValue? radix)

/-- An integer; what does not fit into 64 bits is none. -/
def integer? (cs : List Char) : Option Int :=
  let whole : Option Int :=
    match cs with
    | '0' :: 'x' :: digits => (radixValue 16 digits).map Int.ofNat
    | '0' :: 'o' :: digits => (radixValue 8 digits).map Int.ofNat
    | '0' :: 'b' :: digits => (radixValue 2 digits).map Int.ofNat
    | _ =>
        let (negative, digits) := signed cs
        (decimalDigits digits).bind fun digits =>
          (digitsValue? 10 digits).map fun n => if negative = some true then -(n : Int) else n
  whole.filter fun i => -0x8000000000000000 ≤ i && i < 0x8000000000000000

/-- The number `mantissa · 10 ^ exponent`; none when it is too large. -/
def realOf (mantissa : Nat) (exponent : Int) : Option Float :=
  let places : Int := (Nat.toDigits 10 mantissa).length + exponent
  if mantissa = 0 then some 0.0
  else if 400 < places then none
  else if places < -400 then some 0.0
  else
    let x := if 0 ≤ exponent then Float.ofScientific mantissa false exponent.toNat
      else Float.ofScientific mantissa true (-exponent).toNat
    if x.isInf then none else some x

/-- The exponent after its letter. -/
def exponent? (cs : List Char) : Option Int :=
  let (negative, digits) := signed cs
  (digitRun isDigit digits).bind fun digits =>
    (digitsValue? 10 digits).map fun n => if negative = some true then -(n : Int) else n

/-- A real number: a decimal integer with a fraction, an exponent or both, or a named one. -/
def real? (cs : List Char) : Option Float :=
  let (negative, body) := signed cs
  let flip (x : Float) : Float := if negative = some true then -x else x
  if body = ['i', 'n', 'f'] then some (flip (1.0 / 0.0))
  else if body = ['n', 'a', 'n'] then some (0.0 / 0.0)
  else
    let isExponent (c : Char) : Bool := c == 'e' || c == 'E'
    let front := body.takeWhile fun c => !isExponent c
    let back := body.drop front.length
    let whole := front.takeWhile (· != '.')
    let rest := front.drop whole.length
    let fraction : Option (List Char) :=
      match rest with
      | [] => some []
      | _ :: digits => digitRun isDigit digits
    let exponent : Option Int :=
      match back with
      | [] => some 0
      | _ :: digits => exponent? digits
    if rest.isEmpty && back.isEmpty then none
    else
      (decimalDigits whole).bind fun whole =>
        fraction.bind fun fraction =>
          exponent.bind fun exponent =>
            (digitsValue? 10 (whole ++ fraction)).bind fun mantissa =>
              (realOf mantissa (exponent - fraction.length)).map flip

/-- The number of two digits, if both are. -/
def pair? (a b : Char) : Option Nat :=
  if isDigit a && isDigit b then digitsValue? 10 [a, b] else none

/-- The number of days of a month. -/
def daysIn (year month : Nat) : Nat :=
  if month = 2 then
    if year % 4 = 0 ∧ (year % 100 ≠ 0 ∨ year % 400 = 0) then 29 else 28
  else if month = 4 ∨ month = 6 ∨ month = 9 ∨ month = 11 then 30
  else 31

/-- What follows a date `yyyy-mm-dd` at the front. -/
def afterDate : List Char → Option (List Char)
  | a :: b :: c :: d :: '-' :: e :: f :: '-' :: g :: h :: rest => do
      let century ← pair? a b
      let year ← pair? c d
      let month ← pair? e f
      let day ← pair? g h
      if 1 ≤ month && month ≤ 12 && 1 ≤ day && day ≤ daysIn (century * 100 + year) month then
        some rest
      else
        none
  | _ => none

/-- What follows the hours and minutes `hh:mm` at the front. -/
def afterMinutes : List Char → Option (List Char)
  | a :: b :: ':' :: c :: d :: rest => do
      let hour ← pair? a b
      let minute ← pair? c d
      if hour ≤ 23 && minute ≤ 59 then some rest else none
  | _ => none

/-- What follows the seconds and their fraction, if there are any. -/
def afterSeconds : List Char → Option (List Char)
  | ':' :: a :: b :: rest => do
      let second ← pair? a b
      if 60 < second then none
      else
        match rest with
        | '.' :: digits =>
            let fraction := digits.takeWhile isDigit
            if fraction.isEmpty then none else some (digits.drop fraction.length)
        | _ => some rest
  | ':' :: _ => none
  | rest => some rest

/-- What follows a time at the front. -/
def afterTime (cs : List Char) : Option (List Char) :=
  (afterMinutes cs).bind afterSeconds

/-- Whether a text is nothing or the distance to universal time. -/
def isOffset : List Char → Bool
  | [] => true
  | ['Z'] => true
  | ['z'] => true
  | c :: rest => (c == '+' || c == '-') && afterMinutes rest == some []

/-- Whether a text is a date, a time, or a date and a time. -/
def isMoment (cs : List Char) : Bool :=
  match afterDate cs with
  | some [] => true
  | some (c :: time) => (c == 'T' || c == 't' || c == ' ') && (afterTime time).any isOffset
  | none => afterTime cs == some []

/-- A character that a run may hold. -/
def isRunChar (c : Char) : Bool :=
  c.isAlphanum || c == '+' || c == '-' || c == '_' || c == '.' || c == ':'

/-- The run at the front; a date, one space and a time make one run. -/
def run (cs : List Char) : List Char × List Char :=
  let first := cs.takeWhile isRunChar
  let rest := cs.drop first.length
  match rest with
  | ' ' :: more =>
      if afterDate first = some [] && (more.take 1).any isDigit then
        let time := more.takeWhile isRunChar
        (first ++ ' ' :: time, more.drop time.length)
      else
        (first, rest)
  | _ => (first, rest)

/-- The value that a run stands for. -/
def runValue? (cs : List Char) : Option Value :=
  if cs = ['t', 'r', 'u', 'e'] then some (.boolean true)
  else if cs = ['f', 'a', 'l', 's', 'e'] then some (.boolean false)
  else if isMoment cs then some .moment
  else
    match integer? cs with
    | some i => some (.integer i)
    | none => (real? cs).map .real

/-- A value that is neither a string nor a collection. -/
def scalar? : Scan Value := fun cs =>
  let (first, rest) := run cs
  (runValue? first).map fun v => (v, rest)

end Toml
end Document
end SnippetRubric
