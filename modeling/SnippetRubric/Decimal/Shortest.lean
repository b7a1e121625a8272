/-!
# Shortest decimals

A binary floating point number stands for an interval of reals: all that round to it.  Its
*shortest decimal* is the decimal with the fewest digits in that interval, and of several with as
few the one nearest to the number.  When the number lies halfway between the two nearest, a
convention decides.

The search is exact: a finite number is a natural number times a power of two, and whether a point
of a decimal grid lies in the interval is decided by natural number arithmetic.
-/

namespace SnippetRubric

/-- The decimal `digits · 10 ^ exponent`. -/
structure Decimal where
  digits : Nat
  exponent : Int
deriving DecidableEq, Repr, Inhabited

namespace Decimal

/-- A positive binary number `mantissa · 2 ^ exponent`; `narrowBelow` says that its lower neighbour
is only half as far away as its upper one. -/
structure Binary where
  mantissa : Nat
  exponent : Int
  narrowBelow : Bool
deriving Repr, Inhabited

/-- One more than the largest fraction of a number in 64 bits. -/
def fractions : Nat := 0x10000000000000

/-- One more than the largest bits of an absolute value in 64 bits. -/
def magnitudes : Nat := 0x8000000000000000

/-- The parts of a finite number that is not zero, from the bits of its absolute value. -/
def Binary.ofBits (bits : Nat) : Binary :=
  let fraction := bits % fractions
  let biased := bits / fractions
  if biased = 0 then
    ⟨fraction, -1074, false⟩
  else
    ⟨fraction + fractions, (biased : Int) - 1075, fraction == 0 && decide (1 < biased)⟩

/-- Numerator and denominator of `2 ^ e · 10 ^ s` for integer exponents. -/
def scale (e s : Int) : Nat × Nat :=
  (Nat.pow 2 e.toNat * Nat.pow 10 s.toNat, Nat.pow 2 (-e).toNat * Nat.pow 10 (-s).toNat)

/-- Which of two equally near decimals is taken. -/
inductive Tie where
  /-- The one with an even last digit. -/
  | toEven
  /-- The one farther from zero. -/
  | away
deriving DecidableEq, Repr

/-- Whether the lower of two neighbours on a grid is tried first: it is the nearer one, or the
convention prefers it. -/
def Tie.lowFirst (tie : Tie) (below : Nat) : Ordering → Bool
  | .lt => true
  | .gt => false
  | .eq => tie = .toEven && below % 2 == 0

namespace Binary

variable (x : Binary)

/-- The number in quarters of its last place, its lower and its upper bound of rounding. -/
def quarters : Nat × Nat × Nat :=
  (4 * x.mantissa, 4 * x.mantissa - (if x.narrowBelow then 1 else 2), 4 * x.mantissa + 2)

/-- Whether `digits · 10 ^ exponent` rounds to the number; the bounds do when the mantissa is
even. -/
def roundsFrom (d : Decimal) : Bool :=
  let (_, low, high) := x.quarters
  let (num, den) := scale (x.exponent - 2) (-d.exponent)
  if x.mantissa % 2 = 0 then
    low * num ≤ d.digits * den && d.digits * den ≤ high * num
  else
    low * num < d.digits * den && d.digits * den < high * num

/-- The number in units of `10 ^ exponent`, rounded down, with twice the remainder compared to the
unit. -/
def units (exponent : Int) : Nat × Ordering :=
  let (num, den) := scale x.exponent (-exponent)
  let total := x.mantissa * num
  (total / den, compare (2 * (total % den)) den)

/-- The nearer of the two neighbours of the number on the grid of `10 ^ exponent` that rounds to
it. -/
def onGrid? (tie : Tie) (exponent : Int) : Option Decimal :=
  let (below, remainder) := x.units exponent
  let low : Decimal := ⟨below, exponent⟩
  let high : Decimal := ⟨below + 1, exponent⟩
  let (first, second) := if tie.lowFirst below remainder then (low, high) else (high, low)
  if 0 < first.digits && x.roundsFrom first then some first
  else if 0 < second.digits && x.roundsFrom second then some second
  else none

/-- The number of decimal places before the point, searched downward from `places`. -/
def magnitudeFrom : Nat → Int → Int
  | 0, places => places
  | fuel + 1, places =>
      if (x.units (places - 1)).1 = 0 then magnitudeFrom fuel (places - 1) else places

/-- The least `p` with the number below `10 ^ p`. -/
def magnitude : Int := x.magnitudeFrom 640 310

/-- The shortest decimal: the first grid, from coarse to fine, that holds one.  Seventeen digits
always suffice. -/
def shortest (tie : Tie) : Decimal :=
  let p := x.magnitude
  let grids := (List.range 17).map fun (places : Nat) => p - 1 - (places : Int)
  (grids.findSome? (x.onGrid? tie)).getD ⟨x.mantissa, 0⟩

end Binary

/-- A decimal without zeros at the end of its digits. -/
def normalizedFrom : Nat → Decimal → Decimal
  | 0, d => d
  | fuel + 1, d =>
      if d.digits ≠ 0 ∧ d.digits % 10 = 0 then
        normalizedFrom fuel ⟨d.digits / 10, d.exponent + 1⟩
      else
        d

/-- How a real number is written. -/
structure Layout where
  /-- Which of two equally near decimals is written. -/
  tie : Tie
  /-- Digits before the point up to which a number is written without an exponent; none means
  always. -/
  mostPlaces : Option Nat
  /-- Zeros after the point up to which a number is written without an exponent; none means
  always. -/
  mostZeros : Option Nat
  /-- What stands before an exponent that is not negative. -/
  plus : String
  /-- The text of what is not a number. -/
  notANumber : String
  /-- The text of infinity. -/
  infinity : String

/-- A run of `count` zeros. -/
def zeros (count : Nat) : String :=
  String.ofList (List.replicate count '0')

/-- The digits with a point and, where needed, an exponent. -/
def Layout.write (layout : Layout) (d : Decimal) : String :=
  let digits := toString d.digits
  let point : Int := digits.length + d.exponent
  if 0 ≤ d.exponent && layout.mostPlaces.all fun most => point ≤ most then
    digits ++ zeros d.exponent.toNat ++ ".0"
  else if 0 < point && layout.mostPlaces.all fun most => point ≤ most then
    String.ofList (digits.toList.take point.toNat) ++ "." ++
      String.ofList (digits.toList.drop point.toNat)
  else if point ≤ 0 && layout.mostZeros.all fun most => -point ≤ most then
    "0." ++ zeros (-point).toNat ++ digits
  else
    let tail := String.ofList (digits.toList.drop 1)
    String.ofList (digits.toList.take 1) ++ (if tail.isEmpty then "" else "." ++ tail) ++ "e" ++
      (if 0 < point then layout.plus else "") ++ toString (point - 1)

/-- The text of a real number. -/
def Layout.show (layout : Layout) (x : Float) : String :=
  if x.isNaN then
    layout.notANumber
  else
    let bits := x.toBits.toNat
    let sign := if magnitudes ≤ bits then "-" else ""
    let absolute := bits % magnitudes
    if absolute = 0 then sign ++ "0.0"
    else if x.isInf then sign ++ layout.infinity
    else
      let shortest := (Binary.ofBits absolute).shortest layout.tie
      sign ++ layout.write (normalizedFrom 400 shortest)

/-- Real numbers are always written in full, and a tie goes away from zero. -/
def Layout.full : Layout := ⟨.away, none, none, "", "NaN", "inf"⟩

/-- Very large and very small numbers are written with a signed exponent, and a tie goes to the even
digit. -/
def Layout.scientific : Layout := ⟨.toEven, some 16, some 4, "+", "NaN", "inf"⟩

end Decimal
end SnippetRubric
