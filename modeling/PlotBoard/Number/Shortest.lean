namespace PlotBoard

/-!
# Shortest decimal text of a binary number

A finite binary number stands for the reals that round to it. Its text is the
decimal with the fewest digits among them, of those with equally few digits the
one nearest to the number, and of two equally near the greater one. The text is
positional: it has no exponent, and a point only before a nonzero fraction.
-/

/-- The widths of the fraction field and of the exponent field of a binary format. -/
structure BinaryFormat where
  fractionBits : Nat
  exponentBits : Nat

namespace BinaryFormat

/-- The format with 64 bits. -/
def double : BinaryFormat where
  fractionBits := 52
  exponentBits := 11

/-- The format with 32 bits. -/
def single : BinaryFormat where
  fractionBits := 23
  exponentBits := 8

end BinaryFormat

/--
A positive real `significand · 2^exponent` of a binary format. At the bottom of
a binade the next number below is only half as far away as the next one above.
-/
structure BinaryReal where
  significand : Nat
  exponent : Int
  binadeBottom : Bool

namespace BinaryReal

/-- `count · 2^exponent` as a fraction of natural numbers. -/
def scaled (count : Nat) : Int → Nat × Nat
  | .ofNat power => (count <<< power, 1)
  | .negSucc power => (count, 1 <<< (power + 1))

/-- The grid line `count · 10^power` as a fraction of natural numbers. -/
def gridLine (count : Nat) : Int → Nat × Nat
  | .ofNat power => (count * Nat.pow 10 power, 1)
  | .negSucc power => (count, Nat.pow 10 (power + 1))

/-- Order of fractions with positive denominators. -/
def fractionLE (left right : Nat × Nat) : Bool :=
  left.1 * right.2 ≤ right.1 * left.2

/-- Strict order of fractions with positive denominators. -/
def fractionLT (left right : Nat × Nat) : Bool :=
  left.1 * right.2 < right.1 * left.2

/-- The number itself. -/
def value (real : BinaryReal) : Nat × Nat :=
  scaled real.significand real.exponent

/-- Halfway down to the next number below. -/
def lowerBound (real : BinaryReal) : Nat × Nat :=
  scaled (4 * real.significand - if real.binadeBottom then 1 else 2) (real.exponent - 2)

/-- Halfway up to the next number above. -/
def upperBound (real : BinaryReal) : Nat × Nat :=
  scaled (4 * real.significand + 2) (real.exponent - 2)

/-- A decimal rounds to the number; the bounds themselves do when the significand is even. -/
def rounds (real : BinaryReal) (decimal : Nat × Nat) : Bool :=
  if real.significand % 2 = 0 then
    fractionLE real.lowerBound decimal && fractionLE decimal real.upperBound
  else
    fractionLT real.lowerBound decimal && fractionLT decimal real.upperBound

/-- The last multiple of `10^power` that is at most the number. -/
def gridBelow (real : BinaryReal) (power : Int) : Nat :=
  let unit := gridLine 1 power
  (real.value.1 * unit.2) / (real.value.2 * unit.1)

/-- The number lies nearer to the grid line `below` than to the next one above. -/
def nearerBelow (real : BinaryReal) (below : Nat) (power : Int) : Bool :=
  let unit := gridLine 1 power
  2 * (real.value.1 * unit.2) < (2 * below + 1) * (real.value.2 * unit.1)

/--
The multiple of `10^power` that is written for the number, if one of its two
neighbours on that grid rounds to it.
-/
def onGrid? (real : BinaryReal) (power : Int) : Option Nat :=
  let below := real.gridBelow power
  let above := below + 1
  let belowRounds := real.rounds (gridLine below power)
  let aboveRounds := real.rounds (gridLine above power)
  if below = 0 then
    none
  else if belowRounds && (!aboveRounds || real.nearerBelow below power) then
    some below
  else if aboveRounds then
    some above
  else
    none

/-- A power of ten that is greater than the number. -/
def topPower (real : BinaryReal) : Int :=
  let (numerator, denominator) := real.value
  if denominator ≤ numerator then
    (Nat.toDigits 10 (numerator / denominator)).length
  else
    1 - ((Nat.toDigits 10 (denominator / numerator)).length : Int)

/-- Grids are tried from the coarsest one on; twenty decimal places tell all numbers apart. -/
def shortest (real : BinaryReal) : Nat × Int :=
  let powers := (List.range 20).map fun (step : Nat) => real.topPower - step
  (powers.findSome? fun power =>
    (real.onGrid? power).map fun count => (count, power)).getD
      (real.gridBelow (real.topPower - 20), real.topPower - 20)

end BinaryReal

namespace Positional

/-- The digits after the point without the zeros at their end. -/
def dropFinalZeros (fraction : List Char) : List Char :=
  (fraction.reverse.dropWhile (· == '0')).reverse

/-- `count · 10^power` in positional digits. -/
def digits (count : Nat) : Int → List Char
  | .ofNat power => Nat.toDigits 10 count ++ List.replicate power '0'
  | .negSucc power =>
      let places := power + 1
      let written := Nat.toDigits 10 count
      let padded := List.replicate (places + 1 - written.length) '0' ++ written
      let fraction := dropFinalZeros (padded.drop (padded.length - places))
      padded.take (padded.length - places) ++
        if fraction = [] then [] else '.' :: fraction

end Positional

namespace BinaryFormat

/-- The positive number that an exponent field and a fraction field stand for. -/
def real (format : BinaryFormat) (exponentField fractionField : Nat) : BinaryReal :=
  let bias := (1 <<< (format.exponentBits - 1)) - 1
  if exponentField = 0 then
    { significand := fractionField
      exponent := 1 - (bias : Int) - format.fractionBits
      binadeBottom := false }
  else
    { significand := (1 <<< format.fractionBits) + fractionField
      exponent := exponentField - (bias : Int) - format.fractionBits
      binadeBottom := fractionField = 0 && 1 < exponentField }

/-- The text of a bit pattern; a zero keeps its sign. -/
def text (format : BinaryFormat) (bits : Nat) : String :=
  let fractionField := bits % (1 <<< format.fractionBits)
  let exponentField := (bits >>> format.fractionBits) % (1 <<< format.exponentBits)
  let negative := bits >>> (format.fractionBits + format.exponentBits) = 1
  let sign := if negative then ['-'] else []
  if exponentField = (1 <<< format.exponentBits) - 1 then
    if fractionField = 0 then String.ofList (sign ++ ['i', 'n', 'f']) else "NaN"
  else if exponentField = 0 ∧ fractionField = 0 then
    String.ofList (sign ++ ['0'])
  else
    let (count, power) := (format.real exponentField fractionField).shortest
    String.ofList (sign ++ Positional.digits count power)

end BinaryFormat

end PlotBoard
